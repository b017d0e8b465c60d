import ObjectStore.Number.Double
import ObjectStore.Text.Digits

/-! # Shortest decimal text

The text of a double has the fewest significant digits that read back as the same double, and of
those the nearest. `Layout` says how such digits are laid out; `layout` is the one in use: exponents
from -4 to 15 are written positionally, others with at least two digits of exponent.

* `shortest units`: digits and decimal exponent of a positive magnitude.
* `Double.text`: the text of a double. -/

namespace ObjectStore.Double

/-- The magnitude of `digits * 10 ^ exponent` as a fraction of units. -/
def decimalRatio (digits : Nat) (exponent : Int) : Nat × Nat :=
  if 0 ≤ exponent then (digits * Nat.pow 10 exponent.toNat * one, 1)
  else (digits * one, Nat.pow 10 (-exponent).toNat)

/-- Whether the decimal `digits * 10 ^ exponent` reads back as the magnitude `units`. -/
def readsBack (units digits : Nat) (exponent : Int) : Bool :=
  let (num, den) := decimalRatio digits exponent
  roundUnits num den == units

/-- The distance of the decimal `digits * 10 ^ exponent` from the magnitude `units`, scaled by the
decimal's denominator. -/
def decimalError (units digits : Nat) (exponent : Int) : Nat :=
  let (num, den) := decimalRatio digits exponent
  (num - units * den) + (units * den - num)

/-- The whole number of steps of `10 ^ exponent` below a magnitude. -/
def decimalFloor (units : Nat) (exponent : Int) : Nat :=
  if 0 ≤ exponent then units / (one * Nat.pow 10 exponent.toNat)
  else units * Nat.pow 10 (-exponent).toNat / one

/-- The decimal of a grid of step `10 ^ exponent` that reads back as a magnitude, if one of the two
next to it does; the nearer if both do. -/
def decimalOn? (units : Nat) (exponent : Int) : Option Nat :=
  let low := decimalFloor units exponent
  let high := low + 1
  match readsBack units low exponent, readsBack units high exponent with
  | true, true =>
    let errLow := decimalError units low exponent
    let errHigh := decimalError units high exponent
    some (if errLow < errHigh || (errLow == errHigh && low % 2 == 0) then low else high)
  | true, false => some low
  | false, true => some high
  | false, false => none

/-- The least exponent whose power of ten exceeds the positive magnitude `units`. The logarithm to
base two gives it up to one step. -/
def decimalLength (units : Nat) : Int :=
  let guess := ((units.log2 : Int) - 1074) * 30103 / 100000
  let exceeds (e : Int) : Bool := decimalFloor units e == 0
  if exceeds guess then guess else if exceeds (guess + 1) then guess + 1 else guess + 2

/-- The first of the grids with `count`, `count + 1`, … significant digits that holds a decimal
reading back as the magnitude, trying at most `fuel` of them. -/
def shortestFrom (units : Nat) (length : Int) : Nat → Nat → Nat × Int
  | 0, count => (decimalFloor units (length - count), length - count)
  | fuel + 1, count =>
    match decimalOn? units (length - count) with
    | some digits => (digits, length - count)
    | none => shortestFrom units length fuel (count + 1)

/-- The shortest decimal of the positive magnitude `units`, as a whole number and a power of ten.
Seventeen digits always suffice. -/
def shortest (units : Nat) : Nat × Int := shortestFrom units (decimalLength units) 17 1

/-- How the digits of a number are laid out. -/
structure Layout where
  /-- The least exponent written positionally. -/
  lowest : Int
  /-- The least exponent above it written with an exponent. -/
  highest : Int
  /-- The least number of digits of an exponent. -/
  exponentDigits : Nat

/-- Exponents from -4 to 15 are positional; an exponent has at least two digits. -/
def layout : Layout := ⟨-4, 16, 2⟩

/-- The `digits` with trailing zeros moved into the `exponent`. -/
def trimZeros (fuel digits : Nat) (exponent : Int) : Nat × Int :=
  match fuel with
  | 0 => (digits, exponent)
  | fuel + 1 =>
    if digits % 10 = 0 && digits != 0 then trimZeros fuel (digits / 10) (exponent + 1)
    else (digits, exponent)

/-- Digits `d₁d₂…` with a point, where the number is `d₁.d₂… * 10 ^ exponent`. -/
def layOut (l : Layout) (digits : List Char) (exponent : Int) : List Char :=
  if l.lowest ≤ exponent && exponent < l.highest then
    if exponent < 0 then
      '0' :: '.' :: List.replicate ((-exponent).toNat - 1) '0' ++ digits
    else
      let whole := digits.take (exponent.toNat + 1)
      let fraction := digits.drop (exponent.toNat + 1)
      let whole := whole ++ List.replicate (exponent.toNat + 1 - whole.length) '0'
      whole ++ '.' :: (if fraction.isEmpty then ['0'] else fraction)
  else
    let fraction := digits.drop 1
    let mark := if exponent < 0 then ['e', '-'] else ['e', '+']
    digits.take 1 ++ (if fraction.isEmpty then [] else '.' :: fraction) ++ mark ++
      Text.decimal l.exponentDigits exponent.natAbs

/-- The text of the magnitude `units`. -/
def magnitudeText (units : Nat) : List Char :=
  if units = 0 then ['0', '.', '0']
  else
    let (digits, exponent) := shortest units
    let (digits, exponent) := trimZeros 20 digits exponent
    let chars := Nat.toDigits 10 digits
    layOut layout chars (exponent + chars.length - 1)

/-- The text of a double. -/
def text : Double → String
  | nan => "nan"
  | infinite s => if s then "-inf" else "inf"
  | finite s u _ => String.ofList ((if s then ['-'] else []) ++ magnitudeText u)

end ObjectStore.Double
