import ObjectStore.Number.Magnitude

/-! # Binary floating-point numbers of 64 bits

A finite double is held as a sign and a magnitude in units of 2^-1074. Each operation takes the
exact result and rounds it once, to the nearest double and of two equally near to the one with the
even significand.

* `Double.rounded`: the double nearest to a fraction of units.
* `Double.mul`, `add`, `div`, `sqrt`: the operations, each one rounding.
* `Double.scale`: multiplication by a power of two is exact unless it leaves the range. -/

namespace ObjectStore

/-- A double: not a number, an infinity, or a sign with a whole number of units of 2^-1074. -/
inductive Double
  | nan
  | infinite (negative : Bool)
  | finite (negative : Bool) (units : Nat) (isMagnitude : Double.IsMagnitude units)
deriving DecidableEq, Repr, Inhabited

namespace Double

/-- The double of a magnitude with 53 significant bits; beyond the range it is infinite. -/
def ofUnits (negative : Bool) (units : Nat) (significant : spacing units ∣ units) : Double :=
  if h : units < bound then finite negative units ⟨h, significant⟩ else infinite negative

/-- The double nearest to `num / den` units. -/
def rounded (negative : Bool) (num den : Nat) : Double :=
  ofUnits negative (roundUnits num den) (spacing_dvd_roundUnits num den)

/-- The zero of a sign. -/
def zeroOf (negative : Bool) : Double := finite negative 0 isMagnitude_zero

/-- The double nearest to `num / den`, or to its negative. -/
def ofRatio (negative : Bool) (num den : Nat) : Double :=
  rounded negative (num * one) den

def zero : Double := zeroOf false

/-- Whether a double is neither infinite nor not-a-number. -/
def isFinite : Double → Bool
  | finite _ _ _ => true
  | _ => false

/-- `isFinite nan = false`. -/
@[simp] theorem isFinite_nan : isFinite nan = false := rfl

/-- `isFinite (infinite s) = false`, whatever the sign. -/
@[simp] theorem isFinite_infinite (s : Bool) : isFinite (infinite s) = false := rfl

/-- `isFinite (finite s u h) = true`, whatever the magnitude. -/
@[simp] theorem isFinite_finite (s : Bool) (u : Nat) (h : IsMagnitude u) :
    isFinite (finite s u h) = true := rfl

/-- A double, unless it is infinite or not-a-number. -/
def finite? (x : Double) : Option Double := if x.isFinite then some x else none

/-- `finite? x = some x` for a finite double. -/
@[simp] theorem finite?_finite (s : Bool) (u : Nat) (h : IsMagnitude u) :
    finite? (finite s u h) = some (finite s u h) := rfl

/-- `finite? (infinite s) = none`, whatever the sign. -/
@[simp] theorem finite?_infinite (s : Bool) : finite? (infinite s) = none := rfl

/-- The double nearest to a whole number, unless that is beyond the range. -/
def ofInt? (n : Int) : Option Double := (ofRatio (n < 0) n.natAbs 1).finite?

/-- Whether a double is a zero of either sign. -/
def isZero : Double → Bool
  | finite _ 0 _ => true
  | _ => false

def neg : Double → Double
  | nan => nan
  | infinite s => infinite !s
  | finite s u h => finite (!s) u h

/-- The signed number of units of a finite double. -/
def signed (negative : Bool) (units : Nat) : Int := if negative then -(units : Int) else units

/-- A product. Zero times an infinity is not a number. -/
def mul : Double → Double → Double
  | nan, _ => nan
  | _, nan => nan
  | infinite s, infinite t => infinite (s != t)
  | infinite s, finite t u _ => if u = 0 then nan else infinite (s != t)
  | finite t u _, infinite s => if u = 0 then nan else infinite (s != t)
  | finite s u _, finite t v _ => rounded (s != t) (u * v) one

/-- A sum. Infinities of opposite signs have none; a sum of zero is negative only if both terms
are. -/
def add : Double → Double → Double
  | nan, _ => nan
  | _, nan => nan
  | infinite s, infinite t => if s = t then infinite s else nan
  | infinite s, finite _ _ _ => infinite s
  | finite _ _ _, infinite s => infinite s
  | finite s u _, finite t v _ =>
    let sum := signed s u + signed t v
    if sum = 0 then zeroOf (s && t) else rounded (sum < 0) sum.natAbs 1

/-- A quotient. -/
def div : Double → Double → Double
  | nan, _ => nan
  | _, nan => nan
  | infinite _, infinite _ => nan
  | infinite s, finite t _ _ => infinite (s != t)
  | finite s _ _, infinite t => zeroOf (s != t)
  | finite s u _, finite t v _ =>
    if v = 0 then (if u = 0 then nan else infinite (s != t))
    else rounded (s != t) (u * one) v

/-- The largest number below `2 ^ bits` plus `root` whose square is at most `n`, found bit by bit
from the highest. -/
def rootBits (n : Nat) : Nat → Nat → Nat
  | 0, root => root
  | bits + 1, root =>
    let next := root + Nat.pow 2 bits
    rootBits n bits (if next * next ≤ n then next else root)

/-- The whole part of the square root of `n`. -/
def floorSqrt (n : Nat) : Nat := rootBits n (n.log2 / 2 + 1) 0

/-- A square root; that of a negative number is not a number. The whole part of the root in units
has more than 53 bits, so a half added to an inexact one keeps it between the same two doubles. -/
def sqrt : Double → Double
  | nan => nan
  | infinite s => if s then nan else infinite false
  | finite s u _ =>
    if u = 0 then zeroOf s
    else if s then nan
    else
      let root := floorSqrt (u * one)
      let twice := 2 * root + (if root * root = u * one then 0 else 1)
      rounded false twice 2

/-- A double times `2 ^ k`. -/
def scale (k : Nat) : Double → Double
  | nan => nan
  | infinite s => infinite s
  | finite s u h => ofUnits s (u * Nat.pow 2 k) (spacing_dvd_mul_pow k h.2)

/-- A finite double is scaled by its magnitude: `u * 2 ^ k` units, or infinity beyond the range. -/
@[simp] theorem scale_finite (k : Nat) (s : Bool) (u : Nat) (h : IsMagnitude u) :
    scale k (finite s u h) = ofUnits s (u * Nat.pow 2 k) (spacing_dvd_mul_pow k h.2) := rfl

end Double

end ObjectStore
