import ObjectStore.Number.Double

/-! # Powers of two

Two to the power of a double of moderate size. A whole exponent gives the power itself; for a
fraction the power is computed to 200 binary places and then rounded. -/

namespace ObjectStore.Double

/-- The number of binary places of the computation. -/
def powerPlaces : Nat := 200

/-- One, in the computation's places. -/
def powerOne : Nat := Nat.pow 2 powerPlaces

/-- The natural logarithm of two: the sum of `1 / (k * 2 ^ k)` for `k` from one. -/
def logTwo : Nat :=
  (List.range 220).foldl (fun sum k => sum + powerOne / ((k + 1) * Nat.pow 2 (k + 1))) 0

/-- The terms `t ^ k / k!` of the exponential function from a given one on, added up. -/
def expTerms (t : Nat) : Nat → Nat → Nat → Nat
  | 0, _, _ => 0
  | fuel + 1, k, term => term + expTerms t fuel (k + 1) (term * t / (powerOne * (k + 1)))

/-- The exponential function of a number below one. -/
def expBelowOne (t : Nat) : Nat := expTerms t 80 0 powerOne

/-- Two to the power of a fraction of units. -/
def twoToFraction (units : Nat) : Nat := expBelowOne (logTwo * units / one)

/-- Two to the power of a double. -/
def twoPow : Double → Double
  | nan => nan
  | infinite s => if s then zero else infinite false
  | finite false u _ =>
    let whole := u / one
    let rest := u % one
    if Nat.pow 2 11 ≤ whole then infinite false
    else if rest = 0 then rounded false (Nat.pow 2 whole * one) 1
    else rounded false (twoToFraction rest * Nat.pow 2 whole * one) powerOne
  | finite true u _ =>
    let whole := u / one
    let rest := u % one
    if Nat.pow 2 11 ≤ whole then zero
    else if rest = 0 then rounded false one (Nat.pow 2 whole)
    else rounded false (powerOne * one) (twoToFraction rest * Nat.pow 2 whole)

end ObjectStore.Double
