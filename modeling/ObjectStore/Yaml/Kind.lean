/-! # Kinds of nodes

The kind of a node says what value it has. A tag names it; the tags of the common kinds have the
same start. A node without a tag, or with the unspecific one, has the kind that its form shows.

* `Kind.ofTag?`: the common kind that a tag names. -/

namespace ObjectStore.Yaml

/-- The common kinds of nodes. -/
inductive Kind
  | null
  | bool
  | int
  | float
  | timestamp
  | binary
  | str
  /-- A key whose value is taken over into the mapping. -/
  | merge
  /-- A key whose value stands for the mapping. -/
  | value
  | seq
  | omap
  | pairs
  | set
  | map
deriving DecidableEq, Repr

namespace Kind

/-- Every kind. -/
def all : List Kind :=
  [null, bool, int, float, timestamp, binary, str, merge, value, seq, omap, pairs, set, map]

/-- The name of a kind at the end of its tag. -/
def name : Kind → String
  | null => "null"
  | bool => "bool"
  | int => "int"
  | float => "float"
  | timestamp => "timestamp"
  | binary => "binary"
  | str => "str"
  | merge => "merge"
  | value => "value"
  | seq => "seq"
  | omap => "omap"
  | pairs => "pairs"
  | set => "set"
  | map => "map"

/-- What the tags of the common kinds start with. -/
def tagStart : String := "tag:yaml.org,2002:"

/-- The tag that leaves the kind of a node to its form. -/
def unspecific : String := "!"

/-- The common kind that a tag names. -/
def ofTag? (tag : String) : Option Kind := all.find? fun k => tagStart ++ k.name == tag

/-- Whether nodes of a kind have nodes of their own. -/
def isCollection : Kind → Bool
  | seq => true
  | omap => true
  | pairs => true
  | set => true
  | map => true
  | _ => false

end Kind

end ObjectStore.Yaml
