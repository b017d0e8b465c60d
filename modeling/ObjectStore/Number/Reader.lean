import ObjectStore.Number.Double
import ObjectStore.Text.Numeral

/-! # Reading decimals

A decimal numeral as a double: an optional sign, digits with an optional point, an optional
exponent; or one of the names of infinity and not-a-number in any case. The digits may be those of
any script, blanks around the numeral are dropped, and one underscore may stand between two
digits. -/

namespace ObjectStore.Double

/-- The double nearest to `digits * 10 ^ exponent`. Far outside the range the answer is known
without the power: `count` bounds the number of significant digits. -/
def ofDecimal (negative : Bool) (digits : Nat) (count : Nat) (exponent : Int) : Double :=
  if digits = 0 then zeroOf negative
  else if 400 < exponent then infinite negative
  else if exponent + count < -400 then zeroOf negative
  else if 0 ≤ exponent then ofRatio negative (digits * Nat.pow 10 exponent.toNat) 1
  else ofRatio negative digits (Nat.pow 10 (-exponent).toNat)

/-- The longest run of digits at the front, where one underscore may stand between two digits, and
the rest. The flag says that a digit stands before. -/
def takeDigits : Bool → List Char → List Char × List Char
  | _, [] => ([], [])
  | after, c :: cs =>
    if c.isDigit then
      let (ds, rest) := takeDigits true cs
      (c :: ds, rest)
    else if c == '_' && after && (cs.head?.map Char.isDigit).getD false then takeDigits false cs
    else ([], c :: cs)

/-- An optional sign at the front: whether it is negative, and the rest. -/
def takeSign : List Char → Bool × List Char
  | '-' :: cs => (true, cs)
  | '+' :: cs => (false, cs)
  | cs => (false, cs)

/-- The exponent that a numeral ends in, if the rest of it is one. -/
def readExponent? : List Char → Option Int
  | [] => some 0
  | c :: cs =>
    if c == 'e' || c == 'E' then
      let (negative, cs) := takeSign cs
      let (ds, rest) := takeDigits false cs
      if ds.isEmpty || !rest.isEmpty then none
      else
        let n : Int := Text.decimalNat ds
        some (if negative then -n else n)
    else none

/-- A decimal without its sign: its digits as a whole number, how many they are, and the power of
ten that goes with them. -/
def readDecimal? (cs : List Char) : Option (Nat × Nat × Int) :=
  let (whole, rest) := takeDigits false cs
  let (fraction, rest) :=
    match rest with
    | '.' :: cs => takeDigits false cs
    | _ => ([], rest)
  if whole.isEmpty && fraction.isEmpty then none
  else
    (readExponent? rest).map fun e =>
      let digits := whole ++ fraction
      (Text.decimalNat digits, digits.length, e - fraction.length)

/-- A numeral without its sign. -/
def readMagnitude? (negative : Bool) (cs : List Char) : Option Double :=
  let lower := String.ofList (cs.map Char.toLower)
  if lower == "inf" || lower == "infinity" then some (infinite negative)
  else if lower == "nan" then some nan
  else
    (readDecimal? cs).map fun (digits, count, exponent) => ofDecimal negative digits count exponent

/-- The double that a numeral writes. -/
def read? (text : String) : Option Double :=
  let (negative, cs) := takeSign (Text.plainNumeral text.toList)
  readMagnitude? negative cs

end ObjectStore.Double
