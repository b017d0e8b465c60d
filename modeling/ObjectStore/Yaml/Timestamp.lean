import ObjectStore.Failure.Basic
import ObjectStore.Text.Digits

/-! # Points in time in YAML

A date is written with four, two and two digits joined by hyphens; the latter may be single ones. A
reading goes on after a letter T or blanks with the time of day, maybe a fraction of a second of
which six digits count, and maybe an offset: the letter Z, or a sign with hours and maybe minutes.

* `Timestamp.read?`: the date or the reading that a text writes, if it has the form of one.
* `Timestamp.isImplicit`: whether a plain scalar is one. -/

namespace ObjectStore.Yaml.Timestamp

/-- The numbers of a text in the form of a date or a reading. -/
structure Fields where
  year : Nat
  month : Nat
  day : Nat
  /-- Hour, minute, second and microsecond. -/
  time : Option (Nat × Nat × Nat × Nat)
  /-- The offset in seconds. -/
  offset : Option Int

/-- The number in front with at least and at most some digits, and the rest. -/
def takeNumber? (least most : Nat) (cs : List Char) : Option (Nat × List Char) :=
  let digits := (cs.take most).takeWhile Char.isDigit
  if digits.length < least then none
  else some (Text.decimalNat digits, cs.drop digits.length)

/-- What follows a character that has to be in front. -/
def after? (c : Char) (cs : List Char) : Option (List Char) :=
  if cs.head? = some c then some (cs.drop 1) else none

/-- A text without blanks in front. -/
def skipBlanks (cs : List Char) : List Char := cs.dropWhile fun c => c == ' ' || c == '\t'

/-- What follows the sign between date and time: a letter or blanks. -/
def afterDate? (cs : List Char) : Option (List Char) :=
  match cs with
  | 'T' :: rest => some rest
  | 't' :: rest => some rest
  | _ => if (skipBlanks cs).length < cs.length then some (skipBlanks cs) else none

/-- The microseconds of the fraction in front, if there is one, and the rest. -/
def takeFraction (cs : List Char) : Nat × List Char :=
  match cs with
  | '.' :: rest =>
    let digits := rest.takeWhile Char.isDigit
    let places := digits.take 6
    (Text.decimalNat (places ++ List.replicate (6 - places.length) '0'), rest.drop digits.length)
  | _ => (0, cs)

/-- The offset of a sign, hours and maybe minutes. -/
def signedOffset? (negative : Bool) (cs : List Char) : Option Int := do
  let (hours, rest) ← takeNumber? 1 2 cs
  let (minutes, rest) ←
    match rest with
    | ':' :: rest => takeNumber? 2 2 rest
    | _ => some (0, rest)
  if rest.isEmpty then
    let seconds : Int := hours * 3600 + minutes * 60
    some (if negative then -seconds else seconds)
  else none

/-- The offset that a text writes, if any. -/
def offset? (cs : List Char) : Option (Option Int) :=
  match cs with
  | [] => some none
  | _ =>
    match skipBlanks cs with
    | ['Z'] => some (some 0)
    | '-' :: rest => (signedOffset? true rest).map some
    | '+' :: rest => (signedOffset? false rest).map some
    | _ => none

/-- The numbers of a text, if it has the form of a date or a reading. -/
def fields? (cs : List Char) : Option Fields := do
  let (year, rest) ← takeNumber? 4 4 cs
  let (month, rest) ← takeNumber? 1 2 (← after? '-' rest)
  let (day, rest) ← takeNumber? 1 2 (← after? '-' rest)
  if rest.isEmpty then some ⟨year, month, day, none, none⟩
  else
    let (hour, rest) ← takeNumber? 1 2 (← afterDate? rest)
    let (minute, rest) ← takeNumber? 2 2 (← after? ':' rest)
    let (second, rest) ← takeNumber? 2 2 (← after? ':' rest)
    let (microsecond, rest) := takeFraction rest
    let offset ← offset? rest
    some ⟨year, month, day, some (hour, minute, second, microsecond), offset⟩

/-- Whether a plain scalar is a date or a reading; the digits of a date alone are all needed. -/
def isImplicit (cs : List Char) : Bool :=
  match fields? cs with
  | none => false
  | some f => f.time.isSome || cs.length == 10

/-- The value of some numbers, if the calendar has such a date and the clock such a time. -/
def valueOf (f : Fields) : Except CalendarFault Value := do
  match f.time with
  | none => (Date.ofNumbers f.year f.month f.day).map .date
  | some (hour, minute, second, microsecond) =>
    let offset ← f.offset.mapM DateTime.offsetOfSeconds
    let date ← Date.ofNumbers f.year f.month f.day
    (DateTime.ofNumbers date hour minute second microsecond offset).map .datetime

/-- The date or the reading that a text writes, if it has the form of one. -/
def read? (cs : List Char) : Option (Except Failure Value) :=
  (fields? cs).map fun f => (valueOf f).mapError fun fault => .badValue (.calendar fault)

end ObjectStore.Yaml.Timestamp
