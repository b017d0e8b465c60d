/-! # Time zones

How far the clock of a place is ahead of Universal Time, in microseconds. Most zones are a *fixed*
offset. Where the clock is put forward and back, the offset changes with the reading: a clock that
is put back shows some readings twice, and one that is put forward leaves some out, so at these the
offset depends on the *fold* too, which tells the second of two equal readings from the first.

* `ClockChange.offsetAt`: the offset of a reading under some changes of the clock.
* `ZoneRules`: the changes of a place, by which readings outside the folds are told apart.
* `Zone.offsetAt`: the offset that a zone gives to a reading. -/

namespace ObjectStore

/-- A change of a clock: the new offset, and the readings from which on it is in force. -/
structure ClockChange where
  /-- From where it is in force if a reading is not folded. -/
  unfolded : Int
  /-- From where it is in force if a reading is folded. -/
  folded : Int
  /-- The offset that is in force then. -/
  offset : Int
deriving DecidableEq, Repr

namespace ClockChange

/-- From which reading on a change is in force. -/
def since (c : ClockChange) (fold : Bool) : Int := if fold then c.folded else c.unfolded

/-- The offset of a reading: that of the last change in force, or the one at the start. -/
def offsetAt (fold : Bool) (reading : Int) : Int → List ClockChange → Int
  | start, [] => start
  | start, c :: cs => offsetAt fold reading (if c.since fold ≤ reading then c.offset else start) cs

/-- Whether the fold makes no difference to the offset of a reading. -/
def isSteady (start : Int) (changes : List ClockChange) (reading : Int) : Bool :=
  offsetAt false reading start changes == offsetAt true reading start changes

end ClockChange

/-- The rules of a place: the offset at the start and the changes of the clock, in order. Two places
with the same rules are told apart by a number. -/
structure ZoneRules where
  number : Nat
  /-- How a message shows the place. -/
  shown : String
  start : Int
  changes : List ClockChange
  /-- Two readings outside the folds that are taken at one instant are the same. -/
  eq_of_instant_eq : ∀ v w, ClockChange.isSteady start changes v →
    ClockChange.isSteady start changes w →
    v - ClockChange.offsetAt false v start changes =
      w - ClockChange.offsetAt false w start changes →
      v = w
deriving DecidableEq, Repr

/-- A time zone. -/
inductive Zone
  /-- The same offset at all times. -/
  | fixed (offset : Int)
  /-- The offsets of a place whose clock is changed. -/
  | varying (rules : ZoneRules)
deriving DecidableEq, Repr

namespace Zone

/-- The offset that a zone gives to a reading. -/
def offsetAt : Zone → Bool → Int → Int
  | fixed offset, _, _ => offset
  | varying r, fold, reading => ClockChange.offsetAt fold reading r.start r.changes

/-- Whether the fold makes no difference to a reading in a zone. -/
def isSteady (z : Zone) (reading : Int) : Bool :=
  z.offsetAt false reading == z.offsetAt true reading

/-- `(fixed o).offsetAt fold reading = o`: a fixed zone has one offset. -/
@[simp] theorem offsetAt_fixed (offset : Int) (fold : Bool) (reading : Int) :
    (fixed offset).offsetAt fold reading = offset := rfl

/-- `z.offsetAt fold reading = z.offsetAt false reading`: where the fold makes no difference, both
folds have the offset of the first. -/
theorem offsetAt_of_isSteady {z : Zone} {reading : Int} (h : z.isSteady reading = true)
    (fold : Bool) : z.offsetAt fold reading = z.offsetAt false reading := by
  cases fold with
  | false => rfl
  | true => exact (beq_iff_eq.mp h).symm

/-- `v - z.offsetAt false v = w - z.offsetAt false w`: two readings of a zone outside the folds that
are taken at one instant are the same. -/
theorem eq_of_instant_eq {z : Zone} {v w : Int} (hv : z.isSteady v = true)
    (hw : z.isSteady w = true) (h : v - z.offsetAt false v = w - z.offsetAt false w) : v = w := by
  cases z with
  | fixed offset =>
    simp only [offsetAt_fixed] at h
    omega
  | varying r => exact r.eq_of_instant_eq v w hv hw h

end Zone

end ObjectStore
