import ObjectStore.Yaml.Form

/-! # Values of numerals

The number that a text writes, whether it has the form of one or is only said to be one. Underscores
are left out. A number in sixties is read part by part.

* `Numeral.whole`: a whole number in a base that its first digits show.
* `Numeral.double`: a double. -/

namespace ObjectStore.Yaml.Numeral

/-- The letter that may follow a zero at the front of a number in a base. -/
def letters (base : Nat) : List Char :=
  match base with
  | 2 => ['b', 'B']
  | 8 => ['o', 'O']
  | 16 => ['x', 'X']
  | _ => []

/-- A numeral without the zero and the letter of its base. -/
def withoutLetter (base : Nat) : List Char → List Char
  | '0' :: c :: ds => if (letters base).contains c then ds else '0' :: c :: ds
  | ds => ds

/-- The number that a text writes in a base, maybe with a sign and blanks around it. -/
def inBase (base : Nat) (cs : List Char) : Except Failure Int :=
  let (negative, ds) := Double.takeSign (Text.plainNumeral cs)
  let ds := withoutLetter base ds
  let count := (ds.takeWhile fun d => (Text.digitValue? base d).isSome).length
  if base = 10 ∧ Text.maxDigits < count then .error (.badValue (.numeralTooLong count))
  else if ds.isEmpty || count < ds.length then
    .error (.badValue (.notWhole base (String.ofList cs)))
  else
    let n : Int := Text.digitsNat base ds
    .ok (if negative then -n else n)

/-- The number that a text without sign writes. -/
def magnitude (cs : List Char) : Except Failure Int :=
  match cs with
  | [] => .error .emptyNumeral
  | ['0'] => .ok 0
  | '0' :: 'b' :: ds => inBase 2 ds
  | '0' :: 'x' :: ds => inBase 16 ds
  | '0' :: _ => inBase 8 cs
  | _ => do
    let parts ← (Form.colonParts cs).mapM (inBase 10)
    .ok (parts.foldl (fun n part => 60 * n + part) 0)

/-- A text without underscores and the sign in front, and whether that is negative. -/
def cutSign (text : String) : Except Failure (Bool × List Char) :=
  let cs := text.toList.filter (· != '_')
  if cs.isEmpty then .error .emptyNumeral else .ok (Double.takeSign cs)

/-- The whole number that a text writes. -/
def whole (text : String) : Except Failure Int := do
  let (negative, cs) ← cutSign text
  let n ← magnitude cs
  .ok (if negative then -n else n)

/-- The double that a text writes, as far as it is a numeral. -/
def decimal (cs : List Char) : Except Failure Double :=
  match Double.read? (String.ofList cs) with
  | some x => .ok x
  | none => .error (.badValue (.notNumeral (.text (String.ofList cs))))

/-- The sum of some doubles, each times a sixty more than the one before it. -/
def sixtiesSum (unit : Nat) (sum : Double) : List Double → Except Failure Double
  | [] => .ok sum
  | x :: xs =>
    match Double.ofInt? unit with
    | none => .error .overflow
    | some u => sixtiesSum (60 * unit) (Double.add sum (Double.mul x u)) xs

/-- The double that a text in small letters without sign writes. -/
def doubleMagnitude (cs : List Char) : Except Failure Double :=
  let s := String.ofList cs
  if s == ".inf" then .ok (.infinite false)
  else if s == ".nan" then .ok .nan
  else if cs.contains ':' then do
    let parts ← (Form.colonParts cs).mapM decimal
    sixtiesSum 1 .zero parts.reverse
  else decimal cs

/-- The double that a text writes. Only ASCII letters are made small first. -/
def double (text : String) : Except Failure Double := do
  let (negative, cs) ← cutSign text
  let x ← doubleMagnitude (cs.map Char.toLower)
  .ok (if negative then x.neg else x)

end ObjectStore.Yaml.Numeral
