import ObjectStore.Failure.Basic

/-! # Mappings from values

Where a mapping is asked for, a sequence of pairs serves as well: each item has to be a sequence of
two, the first of which can be a key. -/

namespace ObjectStore.Entries

/-- The entry that `item` of a sequence gives, which is at `index`. -/
def pairOf (index : Nat) (item : Value) : Except Failure (Value × Value) :=
  match item.items? with
  | none => .error (.misuse (.notIterable item.typeName))
  | some [k, v] =>
    if k.hashable then .ok (k, v) else .error (.misuse (.notHashable k.typeName))
  | some parts => .error (.badValue (.entryLength index parts.length))

/-- The entries that the items of a sequence give, the first of which has an index. -/
def pairsFrom : Nat → List Value → Except Failure (List (Value × Value))
  | _, [] => .ok []
  | index, item :: items => do
    let p ← pairOf index item
    let ps ← pairsFrom (index + 1) items
    .ok (p :: ps)

/-- The entries of a value: a mapping's own, or those of a sequence of pairs. -/
def ofValue : Value → Except Failure Entries
  | .dict es => .ok es
  | v =>
    match v.items? with
    | none => .error (.misuse (.notIterable v.typeName))
    | some items => (pairsFrom 0 items).map ofPairs

/-- The entries of `v`, where anything that counts as false has none. -/
def ofOptional (v : Value) : Except Failure Entries := if v.truthy then ofValue v else .ok []

end ObjectStore.Entries
