import ObjectStore.Filter.Build
import ObjectStore.Value.Entries

/-! # Combining values

Two values joined by *and* or by *or*. Two filters make one; truth values and whole numbers are
joined bit by bit; sets make the set of the items that are in both or in either; mappings, by *or*
alone, make one in which the entries of the second come last. Nothing else can be joined.

* `Connective.combine`: two values joined. -/

namespace ObjectStore.Connective

/-- The sign between two values that are joined. -/
def sign : Connective → String
  | .and => "&"
  | .or => "|"

/-- Two truth values joined. -/
def ofBools : Connective → Bool → Bool → Bool
  | .and, a, b => a && b
  | .or, a, b => a || b

/-- The whole numbers `a` and `b` joined bit by bit, at a width at which either has a sign bit to
spare. -/
def ofInts (c : Connective) (a b : Int) : Int :=
  let width := a.natAbs.log2 + b.natAbs.log2 + 2
  let x := BitVec.ofInt width a
  let y := BitVec.ofInt width b
  match c with
  | .and => (x &&& y).toInt
  | .or => (x ||| y).toInt

/-- The items that are in both `xs` and `ys` or in either, in the order of `xs`. -/
def ofSets (c : Connective) (xs ys : List Value) : List Value :=
  match c with
  | .and => xs.filter fun x => ys.any x.same
  | .or => xs ++ ys.filter fun y => !xs.any y.same

/-- The whole number that a value is, if it is one or a truth value. -/
def whole? : Value → Option Int
  | .bool b => some (if b then 1 else 0)
  | .int n => some n
  | _ => none

/-- The items of a value that is a set of either kind. -/
def setItems? : Value → Option (List Value)
  | .set xs => some xs
  | .frozenset xs => some xs
  | _ => none

/-- Two values joined by `c`, neither of which is a filter; nothing if they cannot be joined. -/
def combined? (c : Connective) : Value → Value → Option Value
  | .bool a, .bool b => some (.bool (c.ofBools a b))
  | .set xs, v => (setItems? v).map fun ys => .set (c.ofSets xs ys)
  | .frozenset xs, v => (setItems? v).map fun ys => .frozenset (c.ofSets xs ys)
  | .dict es, .dict fs => if c = .or then some (.dict (Entries.putAll es fs)) else none
  | v, w => do
    let a ← whole? v
    let b ← whole? w
    some (.int (c.ofInts a b))

/-- The values `v` and `w` joined by `c`. What is joined to a filter has to be one too. -/
def combine (c : Connective) (v w : Value) : Except Failure Value :=
  match v with
  | .filter _ => (Filter.joinBy c (.list [v, w])).map .filter
  | _ =>
    match c.combined? v w with
    | some joined => .ok joined
    | none => .error (.misuse (.unsupported c.sign v.typeName w.typeName))

end ObjectStore.Connective
