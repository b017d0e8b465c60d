import ObjectStore.Value.Entries
import ObjectStore.Yaml.Anchor
import ObjectStore.Yaml.Layout
import ObjectStore.Yaml.Scalar

/-! # Reading YAML

The value of a text with one document. Of entries with equal keys the last value stays at the first
place; only what can be hashed is a key, and the entries of a merged mapping come first. Of several
nodes without a value the least nested one is objected to, of those equally nested the first.

* `Node.value`: the value of a node. `Yaml.read`: the value of a text. -/

namespace ObjectStore.Yaml

/-- A result, or a failure with how deep in the document it lies. -/
abbrev Nested (α : Type) := Except (Nat × Failure) α

namespace Nested

/-- A result at the top of a document. -/
def ofExcept {α : Type} (x : Except Failure α) : Nested α := x.mapError fun e => (0, e)

/-- A text that is not well formed. -/
def malformed {α : Type} : Nested α := .error (0, .malformedYaml)

/-- A result one level below. -/
def deeper {α : Type} (x : Nested α) : Nested α := x.mapError fun (depth, e) => (depth + 1, e)

/-- Two results in one; of two failures the less nested, else the first. -/
def both {α β γ : Type} (f : α → β → γ) : Nested α → Nested β → Nested γ
  | .ok a, .ok b => .ok (f a b)
  | .ok _, .error e => .error e
  | .error e, .ok _ => .error e
  | .error e, .error e' => .error (if e'.1 < e.1 then e' else e)

/-- Some results in one; of several failures the least nested, else the first. -/
def all {α : Type} : List (Nested α) → Nested (List α)
  | [] => .ok []
  | x :: xs => both List.cons x (all xs)

end Nested

namespace Node

/-- Whether a node is of a kind. -/
def isOf (kind : Kind) (node : Node) : Bool := node.kind? == some kind

mutual

/-- The text of a node: that of a scalar, or of the value that stands for a mapping. -/
def text : Node → Except Failure String
  | scalar _ _ text => .ok text
  | map _ entries => textOfEntries entries
  | _ => Yaml.malformed

/-- The text of the value that stands for a mapping with some entries. -/
def textOfEntries : List (Node × Node) → Except Failure String
  | [] => Yaml.malformed
  | (k, v) :: es => if k.isOf .value then text v else textOfEntries es

end

/-- The value of a node that is no collection. -/
def single (node : Node) : Nested Value :=
  .ofExcept do
    match node.kind? with
    | none => Yaml.malformed
    | some kind =>
      let text ← node.text
      Scalar.value kind text

/-- The value of a key. A collection is none, and the sign for the value of a mapping stands for
itself. -/
def keyValue (node : Node) : Nested Value :=
  if node.isOf .value then .ofExcept (node.text.map .text)
  else if node.kind?.any Kind.isCollection then .malformed
  else node.single

/-- A list or a mapping that contains itself. -/
def endless (isMap : Bool) : Value :=
  if isMap then .foreign ⟨"dict", "\x7b...\x7d", "\x7b...\x7d", .endless⟩
  else .foreign ⟨"list", "[...]", "[...]", .endless⟩

/-- The keys and values that are taken over into a mapping, and its own. -/
abbrev Parts := List (Nested (Value × Value)) × List (Nested (Value × Value))

/-- All the keys and values of a mapping. -/
def Parts.collect (parts? : Option Parts) : Nested (List (Value × Value)) :=
  match parts? with
  | none => .malformed
  | some (merged, own) => .all (merged ++ own)

mutual

/-- The value of a node. -/
def value : Node → Nested Value
  | reference _ => .malformed
  | enclosing _ isMap => .ok (endless isMap)
  | scalar p isPlain s =>
    let node := scalar p isPlain s
    if node.kind?.any Kind.isCollection then Nested.malformed.deeper else node.single
  | list p items =>
    match (list p items).kind? with
    | some .seq => (Nested.all (itemValues items)).deeper.map .list
    | some .omap => (Nested.all (pairValues items)).deeper.map .list
    | some .pairs => (Nested.all (pairValues items)).deeper.map .list
    | some .map => Nested.malformed.deeper
    | some .set => Nested.malformed.deeper
    | _ => .malformed
  | map p entries =>
    match (map p entries).kind? with
    | some .map =>
      (Parts.collect (entryParts entries)).deeper.map fun es => .dict (Entries.ofPairs es)
    | some .set =>
      (Parts.collect (entryParts entries)).deeper.map fun es =>
        .set (Entries.distinct (es.map Prod.fst))
    | some .seq => Nested.malformed.deeper
    | some .omap => Nested.malformed.deeper
    | some .pairs => Nested.malformed.deeper
    | _ => (map p entries).single

/-- The values of some items. -/
def itemValues : List Node → List (Nested Value)
  | [] => []
  | x :: xs => value x :: itemValues xs

/-- The values of some items, each of which is a mapping with one entry, as pairs. -/
def pairValues : List Node → List (Nested Value)
  | [] => []
  | map _ [(k, v)] :: xs =>
    Nested.both (fun k v => Value.tuple [k, v]) (value k) (value v) :: pairValues xs
  | _ :: xs => .malformed :: pairValues xs

/-- The parts of a mapping with some entries, unless what it takes over is no mapping. -/
def entryParts : List (Node × Node) → Option Parts
  | [] => some ([], [])
  | (k, v) :: es =>
    if k.isOf .merge then do
      let more ← mergedParts v
      let (merged, own) ← entryParts es
      some (more ++ merged, own)
    else do
      let (merged, own) ← entryParts es
      some (merged, Nested.both Prod.mk k.keyValue (value v) :: own)

/-- The keys and values that a node gives to the mapping that takes it over: those of a mapping, or
of the mappings of a list, the last first. -/
def mergedParts : Node → Option (List (Nested (Value × Value)))
  | map _ entries => (entryParts entries).map fun (merged, own) => merged ++ own
  | enclosing _ true => some []
  | list _ items => mergedItems items
  | _ => none

/-- The keys and values of some mappings, the last first. -/
def mergedItems : List Node → Option (List (Nested (Value × Value)))
  | [] => some []
  | map _ entries :: xs => do
    let (merged, own) ← entryParts entries
    let later ← mergedItems xs
    some (later ++ (merged ++ own))
  | _ :: _ => none

end

end Node

/-- The value of a text; the keys of its sections are given. -/
def read (sections : List String) (text : String) : Except Failure Value := do
  let spots ← Spot.ofText text
  let tokens ← Layout.tokens spots
  let node ← Node.ofTokens tokens
  let node ← node.expanded sections
  node.value.mapError Prod.snd

end ObjectStore.Yaml
