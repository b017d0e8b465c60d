import ObjectStore.Value.Equality

/-! # Order of values

Numbers are ordered by exact value, texts and bytes by their units, points in time as
`DateTime.before?` orders them, sequences by the first item in which they differ, sets by proper
containment. Other values are not ordered. Sets of values are put into order before they are used.
Where this is a linear order of their items, how they happen to be iterated never shows.

* `sorted?`: values in ascending order, if any two of them are ordered.
* `sortedByKind?`: first by the names of their kinds, then in ascending order. -/

namespace ObjectStore.Value

/-- Whether one run of bytes is before another. -/
def bytesBefore : List UInt8 → List UInt8 → Bool
  | _, [] => false
  | [], _ :: _ => true
  | a :: as, b :: bs => a < b || (a == b && bytesBefore as bs)

mutual

/-- Whether one value is before another, if the two are ordered. -/
def before? : Value → Value → Option Bool
  | bool a, v => v.number?.map (Number.bool a).lt
  | int a, v => v.number?.map (Number.int a).lt
  | double a, v => v.number?.map (Number.double a).lt
  | text a, text b => some (decide (a < b))
  | bytes a, bytes b => some (bytesBefore a b)
  | list xs, list ys => itemsBefore? xs ys
  | tuple xs, tuple ys => itemsBefore? xs ys
  | set xs, set ys => some (xs.length < ys.length && allAmong xs ys)
  | set xs, frozenset ys => some (xs.length < ys.length && allAmong xs ys)
  | frozenset xs, set ys => some (xs.length < ys.length && allAmong xs ys)
  | frozenset xs, frozenset ys => some (xs.length < ys.length && allAmong xs ys)
  | date a, date b => some (decide (a.dayNumber < b.dayNumber))
  | datetime a, datetime b => a.before? b
  | _, _ => none

/-- Whether one sequence is before another: the first items that differ decide, and of a sequence
and its beginning the beginning is before. -/
def itemsBefore? : List Value → List Value → Option Bool
  | _, [] => some false
  | [], _ :: _ => some true
  | x :: xs, y :: ys => if same x y then itemsBefore? xs ys else before? x y

end

/-- Whether `compare` orders any two of some values. -/
def ordered (compare : Value → Value → Option Bool) : List Value → Bool
  | [] => true
  | x :: xs => xs.all (fun y => (compare x y).isSome && (compare y x).isSome) && ordered compare xs

/-- The `items` in ascending order of `compare`, if it orders any two of them. -/
def sortedBy? (compare : Value → Value → Option Bool) (items : List Value) : Option (List Value) :=
  if ordered compare items then
    some (items.mergeSort fun x y => !((compare y x).getD false))
  else none

/-- The `items` in ascending order of `before?`, if it orders any two of them. -/
def sorted? (items : List Value) : Option (List Value) := sortedBy? before? items

/-- Whether `x` is before `y`, by the names of their kinds first. -/
def kindBefore? (x y : Value) : Option Bool :=
  if x.typeName = y.typeName then before? x y else some (decide (x.typeName < y.typeName))

/-- The `items` in ascending order within each kind, the kinds by name. -/
def sortedByKind? (items : List Value) : Option (List Value) := sortedBy? kindBefore? items

end ObjectStore.Value
