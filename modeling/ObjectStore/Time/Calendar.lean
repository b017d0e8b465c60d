import ObjectStore.Time.Shown

/-! # Dates and readings that exist

Numbers make a date only if the calendar has such a day, and a reading only if the clock shows such
a time. Years run from 1 to 9999; an offset is less than a day in either direction.

* `Date.ofNumbers`, `DateTime.ofNumbers`: the date or the reading that some numbers make. -/

namespace ObjectStore

/-- Why some numbers make no date, no time of day and no offset. -/
inductive CalendarFault
  | year (year : Nat)
  | month
  | day
  | hour
  | minute
  | second
  | microsecond
  | offset (span : Int)
deriving DecidableEq, Repr

/-- The wording of a fault. -/
def CalendarFault.message : CalendarFault → String
  | year n => "year " ++ toString n ++ " is out of range"
  | month => "month must be in 1..12"
  | day => "day is out of range for month"
  | hour => "hour must be in 0..23"
  | minute => "minute must be in 0..59"
  | second => "second must be in 0..59"
  | microsecond => "microsecond must be in 0..999999"
  | offset n =>
    "offset must be a timedelta strictly between -timedelta(hours=24) and timedelta(hours=24), " ++
      "not " ++ DateTime.shownSpan n ++ "."

/-- The date of `year`, `month` and `day`. -/
def Date.ofNumbers (year month day : Nat) : Except CalendarFault Date :=
  if year = 0 ∨ 9999 < year then .error (.year year)
  else if month = 0 ∨ 12 < month then .error .month
  else if day = 0 ∨ daysInMonth year month < day then .error .day
  else .ok ⟨year, month, day⟩

/-- The offset of `span` microseconds, if it is less than a day. -/
def DateTime.offsetOf (span : Int) : Except CalendarFault Int :=
  if span.natAbs < 86400000000 then .ok span else .error (.offset span)

/-- The offset of some `seconds`, if it is less than a day. -/
def DateTime.offsetOfSeconds (seconds : Int) : Except CalendarFault Int :=
  offsetOf (seconds * 1000000)

/-- The reading of `date` and a time of day, at a fixed `offset` or without one. -/
def DateTime.ofNumbers (date : Date) (hour minute second microsecond : Nat) (offset : Option Int) :
    Except CalendarFault DateTime :=
  if 24 ≤ hour then .error .hour
  else if 60 ≤ minute then .error .minute
  else if 60 ≤ second then .error .second
  else if 1000000 ≤ microsecond then .error .microsecond
  else .ok ⟨date, hour, minute, second, microsecond, offset.map .fixed, false⟩

end ObjectStore
