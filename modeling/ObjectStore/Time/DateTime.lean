import ObjectStore.Time.Date
import ObjectStore.Time.Zone

/-! # Points in time

A wall-clock reading, with the zone in which it was taken if that is known. A reading without a zone
is *naive*, one with a zone *aware*.

* `DateTime.offset`, `DateTime.instant?`: the offset and the instant of an aware reading, in
  microseconds.
* `DateTime.same`, `DateTime.before?`: readings of one zone are compared by the clock, whatever
  their folds, and aware readings of two zones by their instants. In two zones no reading is the
  same as one whose offset depends on the fold, and a naive and an aware reading are neither equal
  nor ordered.
* `DateTime.stamp`: date and time of day joined by `T`, with the offset after it. -/

namespace ObjectStore

/-- A wall-clock reading. -/
structure DateTime where
  date : Date
  hour : Nat
  minute : Nat
  second : Nat
  microsecond : Nat
  zone : Option Zone
  /-- Whether it is the second of two equal readings of its zone. -/
  fold : Bool
deriving DecidableEq, Repr

namespace DateTime

/-- The reading in microseconds since the day before day one, as if at offset zero. -/
def wallClock (t : DateTime) : Int :=
  (((t.date.dayNumber * 24 + t.hour) * 60 + t.minute) * 60 + t.second) * 1000000 + t.microsecond

/-- The offset of the aware reading `t`, in microseconds. -/
def offset (t : DateTime) : Option Int := t.zone.map fun z => z.offsetAt t.fold t.wallClock

/-- `t.offset = none ↔ t.zone = none`: the naive readings are those without an offset. -/
theorem offset_eq_none_iff {t : DateTime} : t.offset = none ↔ t.zone = none := by
  rw [offset, Option.map_eq_none_iff]

/-- The instant of an aware reading, in microseconds. -/
def instant? (t : DateTime) : Option Int := t.offset.map fun off => t.wallClock - off

/-- The first of the two readings that `t` may be, whichever it is. -/
def first (t : DateTime) : DateTime := { t with fold := false }

/-- Whether the fold makes no difference to `t`. -/
def isSteady (t : DateTime) : Bool := t.zone.all fun z => z.isSteady t.wallClock

/-- Whether `s` and `t` are the same point in time. -/
def same (s t : DateTime) : Bool :=
  if s.zone = t.zone then s.wallClock == t.wallClock
  else
    match s.instant?, t.instant? with
    | some a, some b => s.isSteady && t.isSteady && a == b
    | _, _ => false

/-- Whether `s` is before `t`; a naive and an aware one are not ordered. -/
def before? (s t : DateTime) : Option Bool :=
  if s.zone = t.zone then some (s.wallClock < t.wallClock)
  else
    match s.instant?, t.instant? with
    | some a, some b => some (a < b)
    | _, _ => none

/-- The reading `t` with its offset for a zone; a naive one is taken to be at offset zero. -/
def assumeUtc (t : DateTime) : DateTime :=
  { t with zone := some (.fixed (t.offset.getD 0)), fold := false }

/-- `t.assumeUtc.offset = some (t.offset.getD 0)`: a naive reading is taken to be at offset zero. -/
@[simp] theorem assumeUtc_offset (t : DateTime) : t.assumeUtc.offset = some (t.offset.getD 0) := rfl

/-- Microseconds after a point, if there are any. -/
def fractionText (microsecond : Nat) : List Char :=
  if microsecond = 0 then [] else '.' :: Text.decimal 6 microsecond

/-- The time of day, with microseconds if there are any. -/
def timeText (t : DateTime) : List Char :=
  Text.decimal 2 t.hour ++ ':' :: Text.decimal 2 t.minute ++ ':' :: Text.decimal 2 t.second ++
    fractionText t.microsecond

/-- The text of `offset`: sign, hours and minutes, and seconds and microseconds if there are any. -/
def offsetText (offset : Int) : List Char :=
  let n := offset.natAbs
  let seconds := n / 1000000
  (if offset < 0 then '-' else '+') :: Text.decimal 2 (seconds / 3600) ++
    ':' :: Text.decimal 2 (seconds / 60 % 60) ++
    (if n % 60000000 = 0 then []
      else ':' :: Text.decimal 2 (seconds % 60) ++ fractionText (n % 1000000))

/-- Date and time of day joined by `separator`, and the offset if there is one. -/
def textWith (separator : Char) (t : DateTime) : List Char :=
  t.date.text ++ separator :: t.timeText ++ (t.offset.map offsetText).getD []

/-- The form in which `t` is sent: a naive reading is taken to be at offset zero. -/
def stamp (t : DateTime) : List Char := textWith 'T' t.assumeUtc

/-- The form in which `t` is written into a message. -/
def text (t : DateTime) : List Char := textWith ' ' t

end DateTime

end ObjectStore
