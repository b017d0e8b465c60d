import ObjectStore.Failure.Basic
import ObjectStore.Number.Reader

/-! # Vectors

The vector of an object is a flat, non-empty list of finite doubles. It is made from a value by
first finding the shape of its nesting and then turning each innermost item into a double. A vector
may be scaled to length one; its length is the square root of the sum of squares, each step rounded.

* `Vector.shapeOf`: the shape of a nesting, `Vector.doubleOf`: the double of an item.
* `Vector.coerce`: the vector of a value. -/

namespace ObjectStore.Vector

/-- The items of a value that is nested. -/
def parts? : Value → Option (List Value)
  | .list xs => some xs
  | .tuple xs => some xs
  | _ => none

/-- The part on which two shapes agree from the outside, and whether that is all of both. -/
def commonShape : List Nat → List Nat → List Nat × Bool
  | [], [] => ([], true)
  | m :: ms, n :: ns =>
    if m = n then
      let (shape, whole) := commonShape ms ns
      (m :: shape, whole)
    else ([], false)
  | _, _ => ([], false)

mutual

/-- The shape of a nesting as far as it is regular, and whether it is regular to the innermost
items. -/
def shapeOf : Value → List Nat × Bool
  | .list xs => nestedShape xs
  | .tuple xs => nestedShape xs
  | _ => ([], true)

/-- The shape of a sequence of items: their number, then the shape that they have in common. -/
def nestedShape : List Value → List Nat × Bool
  | [] => ([0], true)
  | [x] =>
    let (shape, whole) := shapeOf x
    (1 :: shape, whole)
  | x :: y :: ys =>
    let (first, firstWhole) := shapeOf x
    match nestedShape (y :: ys) with
    | (n :: rest, restWhole) =>
      let (shape, whole) := commonShape first rest
      ((n + 1) :: shape, whole && firstWhole && restWhole)
    | (rest, whole) => (rest, whole)

end

mutual

/-- The innermost items of a nesting, in order. -/
def leaves : Value → List Value
  | .list xs => allLeaves xs
  | .tuple xs => allLeaves xs
  | v => [v]

/-- The innermost items of a sequence of nestings. -/
def allLeaves : List Value → List Value
  | [] => []
  | x :: xs => leaves x ++ allLeaves xs

end

/-- The numeral that the bytes `bs` write: bytes outside ASCII are in no numeral. -/
def bytesText (bs : List UInt8) : String :=
  String.ofList (bs.map fun b => if b.toNat < 0x80 then Char.ofNat b.toNat else '?')

/-- The double of an item: a number's own, what a numeral writes, and not-a-number for null. -/
def doubleOf : Value → Except Failure Double
  | .null => .ok .nan
  | .double x => .ok x
  -- A truth value counts as zero or one.
  | .bool b => .ok (Double.ofRatio false (if b then 1 else 0) 1)
  | .int n => inRange (Double.ofInt? n)
  | .text s => numeral (.text s) s
  | .bytes bs => numeral (.bytes bs) (bytesText bs)
  | v => .error (.misuse (.notNumeric v.qualifiedTypeName))
where
  /-- The double of a whole number, unless that is beyond the range. -/
  inRange : Option Double → Except Failure Double
    | some x => .ok x
    | none => .error .overflow
  /-- The double that a numeral writes. -/
  numeral (v : Value) (s : String) : Except Failure Double :=
    match Double.read? s with
    | some x => .ok x
    | none => .error (.badValue (.notNumeral v))

/-- The shape of `v` and its doubles; an irregular nesting has none. -/
def arrayOf (v : Value) : Except Failure (List Nat × List Double) :=
  let (shape, whole) := shapeOf v
  if whole then ((leaves v).mapM doubleOf).map fun xs => (shape, xs)
  else .error (.badValue (.ragged shape))

/-- A failure to make an array, as an objection to the vector. What is beyond the range of doubles
is passed on as it is. -/
def objection : Failure → Failure
  | .misuse m =>
    (Failure.invalid (.vectorNotNumeric m.message)).causedBy (.misuse m)
  | .badValue b =>
    (Failure.invalid (.vectorNotNumeric b.message)).causedBy (.badValue b)
  | e => e

/-- The sum of the squares of `xs`. -/
def squares (xs : List Double) : Double := xs.foldl (fun sum x => sum.add (x.mul x)) Double.zero

/-- The length of the vector `xs`. -/
def norm (xs : List Double) : Double := (squares xs).sqrt

/-- The least length that a vector can be scaled from. -/
def minNorm : Double := Double.ofRatio false 1 (Nat.pow 10 12)

/-- The vector `xs` scaled to length one, unless its length is below `minNorm`. -/
def normalize (xs : List Double) : Except Failure (List Double) :=
  let n := norm xs
  if (Number.double n).lt (.double minNorm) then .error (.invalid .vectorTooShort)
  else .ok (xs.map (·.div n))

/-- The vector of `v`, with `scaled` scaled to length one. -/
def coerce (v : Value) (scaled : Bool) : Except Failure (List Double) := do
  let (shape, xs) ← (arrayOf v).mapError objection
  if shape.length ≠ 1 then .error (.invalid (.vectorNotFlat shape))
  else if xs.isEmpty then .error (.invalid .vectorEmpty)
  else if !xs.all Double.isFinite then .error (.invalid .vectorNotFinite)
  else if scaled then normalize xs
  else .ok xs

end ObjectStore.Vector
