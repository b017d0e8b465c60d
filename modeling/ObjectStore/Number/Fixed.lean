import ObjectStore.Number.Double
import ObjectStore.Text.Digits

/-! # Text with a fixed number of places

A double with a given number of digits after the point: its exact value rounded to that place, a
half to the even neighbour. -/

namespace ObjectStore.Double

/-- A magnitude in units with `places` digits after the point. -/
def fixedMagnitude (places units : Nat) : List Char :=
  let scaled := nearest (units * Nat.pow 10 places) one
  let digits := Text.decimal (places + 1) scaled
  let whole := digits.length - places
  digits.take whole ++ (if places = 0 then [] else '.' :: digits.drop whole)

/-- A double with `places` digits after the point. -/
def fixed (places : Nat) : Double → String
  | nan => "nan"
  | infinite s => if s then "-inf" else "inf"
  | finite s u _ => String.ofList ((if s then ['-'] else []) ++ fixedMagnitude places u)

end ObjectStore.Double
