import ObjectStore.Yaml.Node

/-! # Anchors

An alias stands for the node that an anchor before it names. An anchor is given once. A list or a
mapping may contain itself.

* `Node.expanded`: a tree with the nodes that its aliases stand for. -/

namespace ObjectStore.Yaml.Node

/-- What has an anchor: a node that is not yet complete, or a complete one. -/
inductive Anchored
  | begun (isMap : Bool)
  | complete (node : Node)

/-- What the anchors so far stand for, the last first. -/
abbrev Anchors := List (String × Anchored)

/-- Notes that a list or a mapping with some properties begins. An anchor is given once. -/
def claim (p : Properties) (isMap : Bool) (known : Anchors) : Except Failure Anchors :=
  match p.anchor with
  | none => .ok known
  | some name =>
    if (known.lookup name).isSome then malformed else .ok ((name, .begun isMap) :: known)

/-- Notes the node that has some properties. -/
def settle (p : Properties) (node : Node) (known : Anchors) : Node × Anchors :=
  match p.anchor with
  | none => (node, known)
  | some name => (node, (name, .complete node) :: known)

mutual

/-- A tree with the nodes that its aliases stand for. -/
def expand : Node → Anchors → Except Failure (Node × Anchors)
  | reference name, known =>
    match known.lookup name with
    | some (.complete node) => .ok (node, known)
    -- The node is inside itself.
    | some (.begun isMap) => .ok (enclosing name isMap, known)
    | none => malformed
  | enclosing name isMap, known => .ok (enclosing name isMap, known)
  | scalar p isPlain text, known => do
    let known ← claim p false known
    .ok (settle p (scalar p isPlain text) known)
  | list p items, known => do
    let known ← claim p false known
    let (items, known) ← expandItems items known
    .ok (settle p (list p items) known)
  | map p entries, known => do
    let known ← claim p true known
    let (entries, known) ← expandEntries entries known
    .ok (settle p (map p entries) known)

/-- Items with the nodes that their aliases stand for. -/
def expandItems : List Node → Anchors → Except Failure (List Node × Anchors)
  | [], known => .ok ([], known)
  | x :: xs, known => do
    let (x, known) ← expand x known
    let (xs, known) ← expandItems xs known
    .ok (x :: xs, known)

/-- Entries with the nodes that their aliases stand for. -/
def expandEntries :
    List (Node × Node) → Anchors → Except Failure (List (Node × Node) × Anchors)
  | [], known => .ok ([], known)
  | (k, v) :: es, known => do
    let (k, known) ← expand k known
    let (v, known) ← expand v known
    let (es, known) ← expandEntries es known
    .ok ((k, v) :: es, known)

end

mutual

/-- A tree with a node in the places where the one around them with some anchor stands. -/
def substitute (anchor : String) (node : Node) : Node → Node
  | enclosing name isMap => if name == anchor then node else enclosing name isMap
  | list p items => list p (substituteItems anchor node items)
  | map p entries => map p (substituteEntries anchor node entries)
  | other => other

/-- Items with a node in such places. -/
def substituteItems (anchor : String) (node : Node) : List Node → List Node
  | [] => []
  | x :: xs => substitute anchor node x :: substituteItems anchor node xs

/-- Entries with a node in such places. -/
def substituteEntries (anchor : String) (node : Node) : List (Node × Node) → List (Node × Node)
  | [] => []
  | (k, v) :: es =>
    (substitute anchor node k, substitute anchor node v) :: substituteEntries anchor node es

end

/-- A node by which another one can be meant from inside: the other one with some anchor if it has
none. -/
def anchored (name : String) : Node → Node
  | list p items => list { p with anchor := some (p.anchor.getD name) } items
  | map p entries => map { p with anchor := some (p.anchor.getD name) } entries
  | node => node

/-- What means a node from inside. -/
def inside : Node → Node
  | list p items =>
    match p.anchor with
    | some name => enclosing name false
    | none => list p items
  | map p entries =>
    match p.anchor with
    | some name => enclosing name true
    | none => map p entries
  | node => node

/-- A mapping whose values can be looked at on their own: where one of them means the mapping
around it, it contains that mapping, in which it is meant itself. The spare anchor is one that
nothing in the mapping has. -/
def apart (spare : String) : Node → Node
  | map p entries =>
    match p.anchor with
    | none => map p entries
    | some anchor =>
      map p (entries.mapIdx fun i (k, v) =>
        let v := v.anchored spare
        (k, substitute anchor (map p (entries.set i (k, v.inside))) v))
  | node => node

/-- A mapping in which the values of some keys are mappings whose values can be looked at on their
own. -/
def sectionsApart (keys : List String) : Node → Node
  | map p entries =>
    map p (entries.map fun (k, v) =>
      match k with
      | scalar _ _ key => (k, if keys.contains key then v.apart "  " else v)
      | k => (k, v))
  | node => node

/-- The tree of a document with the nodes that its aliases stand for. Values of the document and of
its sections, whose keys are given, can be looked at on their own; no anchor in a text is blank. -/
def expanded (sections : List String) (node : Node) : Except Failure Node :=
  (node.expand []).map fun (root, _) => (root.apart " ").sectionsApart sections

end ObjectStore.Yaml.Node
