import ObjectStore.Time.DateTime

/-! # Constructor forms of dates and times

How messages show a date or a reading: its constructor applied to its fields. Seconds and
microseconds that are zero at the end are left out. -/

namespace ObjectStore

/-- Numbers joined by commas. -/
def commaNumbers (ns : List Nat) : String := ", ".intercalate (ns.map toString)

/-- The constructor form of a date. -/
def Date.shown (d : Date) : String :=
  "datetime.date(" ++ commaNumbers [d.year, d.month, d.day] ++ ")"

namespace DateTime

/-- The constructor form of a span of time in microseconds. A negative one is shown as whole days
back, and seconds and microseconds forward. -/
def shownSpan (span : Int) : String :=
  let days := span.fdiv 86400000000
  let seconds := (span.fmod 86400000000) / 1000000
  let microseconds := span.fmod 1000000
  let parts :=
    (if days = 0 then [] else ["days=" ++ toString days]) ++
      (if seconds = 0 then [] else ["seconds=" ++ toString seconds]) ++
      (if microseconds = 0 then [] else ["microseconds=" ++ toString microseconds])
  "datetime.timedelta(" ++ ", ".intercalate parts ++ ")"

/-- The constructor form of an offset. -/
def shownOffset (offset : Int) : String :=
  if offset = 0 then "datetime.timezone.utc"
  else "datetime.timezone(" ++ shownSpan offset ++ ")"

/-- How a message shows a zone: a fixed one by the constructor form of its offset. -/
def shownZone : Zone → String
  | .fixed offset => shownOffset offset
  | .varying rules => rules.shown

/-- The constructor form of a reading. -/
def shown (t : DateTime) : String :=
  let tail :=
    if t.microsecond = 0 then (if t.second = 0 then [] else [t.second])
    else [t.second, t.microsecond]
  let fields := [t.date.year, t.date.month, t.date.day, t.hour, t.minute] ++ tail
  let zone := (t.zone.map fun z => ", tzinfo=" ++ shownZone z).getD ""
  let fold := if t.fold then ", fold=1" else ""
  "datetime.datetime(" ++ commaNumbers fields ++ zone ++ fold ++ ")"

end DateTime

end ObjectStore
