import ObjectStore.Yaml.Form
import ObjectStore.Yaml.Tag

/-! # Nodes

A document is a tree of scalars, lists and mappings. A node may have a tag and an anchor, an alias
stands for the node that has its anchor, and a node that is left out is an empty plain scalar.

* `Node.ofTokens`: the tree of a document.
* `Node.kind?`: the kind of a node. -/

namespace ObjectStore.Yaml

/-- What may stand before a node. -/
structure Properties where
  anchor : Option String
  tag : Option String
deriving Repr

/-- A part of a document with all that belongs to it. -/
inductive Node
  | reference (name : String)
  /-- The list or the mapping around it that has an anchor. -/
  | enclosing (name : String) (isMap : Bool)
  | scalar (p : Properties) (isPlain : Bool) (text : String)
  | list (p : Properties) (items : List Node)
  | map (p : Properties) (entries : List (Node × Node))
deriving Repr

namespace Properties

/-- Neither anchor nor tag. -/
def none : Properties := ⟨.none, .none⟩

/-- Whether there is neither anchor nor tag. -/
def isEmpty (p : Properties) : Bool := p.anchor.isNone && p.tag.isNone

/-- An anchor and a tag in either order, each of which may be missing, and the rest. -/
def take : List Token → Properties × List Token
  | .anchor name :: .tag _ t :: rest => (⟨some name, some t⟩, rest)
  | .tag _ t :: .anchor name :: rest => (⟨some name, some t⟩, rest)
  | .anchor name :: rest => (⟨some name, .none⟩, rest)
  | .tag _ t :: rest => (⟨.none, some t⟩, rest)
  | rest => (none, rest)

end Properties

namespace Node

/-- A node that is left out. -/
def missing : Node := scalar .none true ""

/-- Where a node may stand: inside brackets, as an item or a whole document, or as a key or a value
of a block, where a list need not be indented. -/
inductive Place
  | inBrackets
  | inList
  | inMap
deriving DecidableEq, Repr

/-- What follows a comma that has to be in front. -/
def afterComma : List Token → Except Failure (List Token)
  | .comma :: rest => .ok rest
  | _ => malformed

mutual

/-- The node in front, and the rest. -/
def parse (place : Place) : Nat → List Token → Except Failure (Node × List Token)
  | 0, _ => malformed
  | _ + 1, .reference name :: rest => .ok (reference name, rest)
  | fuel + 1, ts =>
    let (p, rest) := Properties.take ts
    match rest with
    | .scalar isPlain text :: rest => .ok (scalar p isPlain text, rest)
    | .openList :: rest => (parseItems true fuel rest).map fun (xs, rest) => (list p xs, rest)
    | .openMap :: rest => (parseEntries true fuel rest).map fun (es, rest) => (map p es, rest)
    | .blockList :: rest =>
      if place = .inBrackets then malformed
      else (parseBlockItems fuel rest).map fun (xs, rest) => (list p xs, rest)
    | .blockMap :: rest =>
      if place = .inBrackets then malformed
      else (parseBlockEntries fuel rest).map fun (es, rest) => (map p es, rest)
    | .item :: _ =>
      -- A list in a block may be flush with the key that it belongs to.
      if place = .inMap then (parseFlatItems fuel rest).map fun (xs, rest) => (list p xs, rest)
      else if p.isEmpty then malformed
      else .ok (scalar p true "", rest)
    | _ => if p.isEmpty then malformed else .ok (scalar p true "", rest)

/-- The node in front unless one of some tokens is there, which leave it out; and the rest. -/
def parseUnless (place : Place) (stops : List Token) :
    Nat → List Token → Except Failure (Node × List Token)
  | 0, _ => malformed
  | fuel + 1, ts =>
    if ts.head?.any stops.contains then .ok (missing, ts) else parse place fuel ts

/-- The value in front with its mark, if there is one, and the rest. -/
def parseValue (place : Place) (stops : List Token) :
    Nat → List Token → Except Failure (Node × List Token)
  | 0, _ => malformed
  | fuel + 1, .value :: rest => parseUnless place stops fuel rest
  | _ + 1, ts => .ok (missing, ts)

/-- The items of a block up to its end. -/
def parseBlockItems : Nat → List Token → Except Failure (List Node × List Token)
  | 0, _ => malformed
  | _ + 1, .blockEnd :: rest => .ok ([], rest)
  | fuel + 1, .item :: rest => do
    let (x, rest) ← parseUnless .inList [.item, .blockEnd] fuel rest
    let (xs, rest) ← parseBlockItems fuel rest
    .ok (x :: xs, rest)
  | _ + 1, _ => malformed

/-- The items of a list that is not indented in its mapping. -/
def parseFlatItems : Nat → List Token → Except Failure (List Node × List Token)
  | 0, _ => malformed
  | fuel + 1, .item :: rest => do
    let (x, rest) ← parseUnless .inList [.item, .key, .value, .blockEnd] fuel rest
    let (xs, rest) ← parseFlatItems fuel rest
    .ok (x :: xs, rest)
  | _ + 1, ts => .ok ([], ts)

/-- The entries of a block up to its end. -/
def parseBlockEntries : Nat → List Token → Except Failure (List (Node × Node) × List Token)
  | 0, _ => malformed
  | _ + 1, .blockEnd :: rest => .ok ([], rest)
  | fuel + 1, .key :: rest => do
    let stops := [.key, .value, .blockEnd]
    let (k, rest) ← parseUnless .inMap stops fuel rest
    let (v, rest) ← parseValue .inMap stops fuel rest
    let (es, rest) ← parseBlockEntries fuel rest
    .ok ((k, v) :: es, rest)
  | _ + 1, _ => malformed

/-- The items up to a closing bracket, each but the first after a comma. An entry is an item, a
mapping of its own. -/
def parseItems (first : Bool) : Nat → List Token → Except Failure (List Node × List Token)
  | 0, _ => malformed
  | _ + 1, .closeList :: rest => .ok ([], rest)
  | fuel + 1, ts => do
    let ts ← if first then .ok ts else afterComma ts
    match ts with
    | .closeList :: rest => .ok ([], rest)
    | .key :: rest =>
      let stops := [.comma, .closeList]
      let (k, rest) ← parseUnless .inBrackets (.value :: stops) fuel rest
      let (v, rest) ← parseValue .inBrackets stops fuel rest
      let (xs, rest) ← parseItems false fuel rest
      .ok (map .none [(k, v)] :: xs, rest)
    | ts =>
      let (x, rest) ← parse .inBrackets fuel ts
      let (xs, rest) ← parseItems false fuel rest
      .ok (x :: xs, rest)

/-- The entries up to a closing brace, each but the first after a comma. A key may stand alone. -/
def parseEntries (first : Bool) :
    Nat → List Token → Except Failure (List (Node × Node) × List Token)
  | 0, _ => malformed
  | _ + 1, .closeMap :: rest => .ok ([], rest)
  | fuel + 1, ts => do
    let ts ← if first then .ok ts else afterComma ts
    match ts with
    | .closeMap :: rest => .ok ([], rest)
    | .key :: rest =>
      let stops := [.comma, .closeMap]
      let (k, rest) ← parseUnless .inBrackets (.value :: stops) fuel rest
      let (v, rest) ← parseValue .inBrackets stops fuel rest
      let (es, rest) ← parseEntries false fuel rest
      .ok ((k, v) :: es, rest)
    | ts =>
      let (k, rest) ← parse .inBrackets fuel ts
      let (es, rest) ← parseEntries false fuel rest
      .ok ((k, missing) :: es, rest)

end

/-- The tree of a document; no other may follow. -/
def ofTokens (ts : List Token) : Except Failure Node := do
  let ts ← Token.withTags ts
  let fuel := 4 * ts.length + 4
  let (node, rest) ←
    match ts with
    | [] => .ok (missing, [])
    | .documentStart :: rest =>
      if rest.isEmpty then .ok (missing, [])
      else parseUnless .inList [.documentStart, .documentEnd] fuel rest
    | ts => parse .inList fuel ts
  if rest.all (· == .documentEnd) then .ok node else malformed

/-- The kind of a node; nothing if its tag is none of the common ones. -/
def kind? : Node → Option Kind
  | reference _ => none
  | enclosing _ isMap => some (if isMap then .map else .seq)
  | scalar p isPlain text =>
    match p.tag with
    | none => some (if isPlain then Kind.ofForm text else .str)
    | some tag => if tag == Kind.unspecific then some (Kind.ofForm text) else Kind.ofTag? tag
  | list p _ =>
    match p.tag with
    | none => some .seq
    | some tag => if tag == Kind.unspecific then some .seq else Kind.ofTag? tag
  | map p _ =>
    match p.tag with
    | none => some .map
    | some tag => if tag == Kind.unspecific then some .map else Kind.ofTag? tag

end Node

end ObjectStore.Yaml
