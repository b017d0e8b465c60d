/-! # Digits

Decimal and hexadecimal digits of numbers, with a least width. -/

namespace ObjectStore.Text

/-- The character of a hexadecimal digit, letters small. -/
def hexDigit (n : Nat) : Char := Nat.digitChar (n % 16)

/-- The character of a hexadecimal digit, letters capital. -/
def hexDigitUpper (n : Nat) : Char := (Nat.digitChar (n % 16)).toUpper

/-- The lowest `width` hexadecimal digits of a number, the highest first. -/
def hexDigits : Nat → Nat → List Char
  | 0, _ => []
  | width + 1, n => hexDigits width (n / 16) ++ [hexDigit n]

/-- `(hexDigits width n).length = width`: leading zeros fill the width. -/
@[simp] theorem length_hexDigits (width n : Nat) : (hexDigits width n).length = width := by
  induction width generalizing n with
  | zero => rfl
  | succ width ih => simp [hexDigits, ih]

/-- Zeros before a text until it has the given length. -/
def padZeros (width : Nat) (cs : List Char) : List Char :=
  List.replicate (width - cs.length) '0' ++ cs

/-- The decimal digits of a number, at least `width` of them. -/
def decimal (width n : Nat) : List Char := padZeros width (Nat.toDigits 10 n)

/-- The value of a decimal digit. -/
def decimalValue? (c : Char) : Option Nat :=
  if c.isDigit then some (c.toNat - '0'.toNat) else none

/-- The value of the digit `c` in a `base` of at most sixteen. -/
def digitValue? (base : Nat) (c : Char) : Option Nat :=
  let n := c.toNat
  let v? :=
    if c.isDigit then some (n - '0'.toNat)
    else if 'a' ≤ c && c ≤ 'f' then some (n - 'a'.toNat + 10)
    else if 'A' ≤ c && c ≤ 'F' then some (n - 'A'.toNat + 10)
    else none
  v?.filter (· < base)

/-- The greatest number of decimal digits of a whole number that is read or written. -/
def maxDigits : Nat := 4300

/-- The number that the decimal digits `cs` write; other characters count as zero. -/
def decimalNat (cs : List Char) : Nat :=
  cs.foldl (fun n c => 10 * n + (decimalValue? c).getD 0) 0

/-- The number that the digits `cs` write in a `base`. -/
def digitsNat (base : Nat) (cs : List Char) : Nat :=
  cs.foldl (fun n c => base * n + (digitValue? base c).getD 0) 0

end ObjectStore.Text
