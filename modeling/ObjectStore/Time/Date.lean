import ObjectStore.Text.Digits

/-! # Calendar dates

Dates of the Gregorian calendar, carried back before its adoption, and the day count that orders
them. -/

namespace ObjectStore

/-- A day of the calendar. -/
structure Date where
  year : Nat
  month : Nat
  day : Nat
deriving DecidableEq, Repr

namespace Date

/-- Whether a year has a 29th of February. -/
def isLeapYear (year : Nat) : Bool := year % 4 == 0 && (year % 100 != 0 || year % 400 == 0)

/-- The number of days in a month of a year. -/
def daysInMonth (year : Nat) : Nat → Nat
  | 2 => if isLeapYear year then 29 else 28
  | 4 => 30
  | 6 => 30
  | 9 => 30
  | 11 => 30
  | _ => 31

/-- The number of days before the first of a month in a year. -/
def daysBeforeMonth (year : Nat) : Nat → Nat
  | 0 => 0
  | month + 1 => if month = 0 then 0 else daysBeforeMonth year month + daysInMonth year month

/-- The number of days before the first of January of `year`, counted from year one. -/
def daysBeforeYear (year : Nat) : Nat :=
  let y := year - 1
  y * 365 + y / 4 - y / 100 + y / 400

/-- The number of the day `d`; the first of January of year one is day one. -/
def dayNumber (d : Date) : Nat := daysBeforeYear d.year + daysBeforeMonth d.year d.month + d.day

/-- Year, month and day joined by hyphens. -/
def text (d : Date) : List Char :=
  Text.decimal 4 d.year ++ '-' :: Text.decimal 2 d.month ++ '-' :: Text.decimal 2 d.day

end Date

end ObjectStore
