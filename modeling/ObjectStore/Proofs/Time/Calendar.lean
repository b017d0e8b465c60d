import Mathlib
import ObjectStore.Time.Calendar

/-! # Readings that exist

A date exists if the calendar has such a day, and a reading if also the clock shows such a time and
the offset is less than a day. The days that exist are numbered without repetition, each month and
each year beginning where the one before it ends, and so the clock tells readings apart.

* `Date.Exists`, `DateTime.Exists`: the dates and the readings that numbers make.
* `Date.dayNumber_inj`: the number of a day determines the day.
* `DateTime.wallClock_inj`: the clock determines a reading of a zone, up to its fold. -/

namespace ObjectStore

namespace Date

/-- That the calendar has the day `d`. -/
structure Exists (d : Date) : Prop where
  year_pos : 0 < d.year
  year_le : d.year ≤ 9999
  month_pos : 0 < d.month
  month_le : d.month ≤ 12
  day_pos : 0 < d.day
  day_le : d.day ≤ daysInMonth d.year d.month

variable {d e : Date}

/-- `ofNumbers year month day = .ok d`: the dates that exist are those that numbers make. -/
theorem ofNumbers_eq_ok_iff {year month day : Nat} :
    ofNumbers year month day = .ok d ↔ d = ⟨year, month, day⟩ ∧ d.Exists := by
  unfold ofNumbers
  constructor
  · intro h
    split_ifs at h with hyear hmonth hday
    cases h
    refine ⟨rfl, ?_, ?_, ?_, ?_, ?_, ?_⟩ <;> dsimp only <;> omega
  · rintro ⟨rfl, hyear, hyear', hmonth, hmonth', hday, hday'⟩
    dsimp only at *
    rw [if_neg (by omega), if_neg (by omega), if_neg (by omega)]

/-! ## Months -/

/-- The next month begins `daysInMonth year month` days later. -/
theorem daysBeforeMonth_succ {month : Nat} (hmonth : 0 < month) (year : Nat) :
    daysBeforeMonth year (month + 1) = daysBeforeMonth year month + daysInMonth year month := by
  rw [daysBeforeMonth, if_neg (by omega)]

/-- `daysBeforeMonth year` does not fall from month to month. -/
theorem daysBeforeMonth_mono (year : Nat) : Monotone (daysBeforeMonth year) := by
  refine monotone_nat_of_le_succ fun month => ?_
  by_cases hmonth : month = 0
  · rw [hmonth]
    exact Nat.zero_le _
  · rw [daysBeforeMonth_succ (by omega)]
    exact Nat.le_add_right _ _

/-- `daysBeforeMonth year 13`: a year has one day more if it is a leap year. -/
theorem daysBeforeMonth_end (year : Nat) :
    daysBeforeMonth year 13 = if isLeapYear year then 366 else 365 := by
  simp only [daysBeforeMonth, daysInMonth]
  cases isLeapYear year <;> rfl

/-! ## Years -/

/-- `isLeapYear year`: four divides the year, and a hundred only if four hundred does. -/
theorem isLeapYear_iff {year : Nat} :
    isLeapYear year = true ↔ 4 ∣ year ∧ (¬ 100 ∣ year ∨ 400 ∣ year) := by
  simp only [isLeapYear, Bool.and_eq_true, Bool.or_eq_true, beq_iff_eq, bne_iff_ne,
    Nat.dvd_iff_mod_eq_zero, ne_eq]

/-- `daysBeforeYear (year + 1) = daysBeforeYear year + daysBeforeMonth year 13`: A year ends where
the next one begins. -/
theorem daysBeforeYear_succ {year : Nat} (hyear : 0 < year) :
    daysBeforeYear (year + 1) = daysBeforeYear year + daysBeforeMonth year 13 := by
  obtain ⟨n, rfl⟩ := Nat.exists_eq_add_of_lt hyear
  rw [Nat.zero_add, daysBeforeMonth_end]
  simp only [daysBeforeYear, Nat.add_sub_cancel, Nat.succ_div, isLeapYear_iff]
  have hcenturies : n / 100 ≤ n * 365 := by omega
  generalize n / 100 = centuries at hcenturies
  generalize n / 4 = fours
  generalize n / 400 = cycles
  -- The counts of multiples of 4, 100 and 400 grow by one at such multiples.
  by_cases hfour : 4 ∣ n + 1
  · by_cases hcentury : 100 ∣ n + 1
    · by_cases hcycle : 400 ∣ n + 1
      · simp only [hfour, hcentury, hcycle, if_true, not_true_eq_false, or_true, and_true]
        omega
      · simp only [hfour, hcentury, hcycle, if_true, if_false, not_true_eq_false, or_false,
          and_false]
        omega
    · have hcycle : ¬ 400 ∣ n + 1 := fun h => hcentury (Nat.dvd_trans (by decide) h)
      simp only [hfour, hcentury, hcycle, if_true, if_false, not_false_eq_true, true_or, and_true]
      omega
  · have hcentury : ¬ 100 ∣ n + 1 := fun h => hfour (Nat.dvd_trans (by decide) h)
    have hcycle : ¬ 400 ∣ n + 1 := fun h => hfour (Nat.dvd_trans (by decide) h)
    simp only [hfour, hcentury, hcycle, if_false, false_and]
    omega

/-- `daysBeforeYear year ≤ daysBeforeYear year'` for a later year. -/
theorem daysBeforeYear_mono {year year' : Nat} (hyear : 0 < year) (hle : year ≤ year') :
    daysBeforeYear year ≤ daysBeforeYear year' := by
  induction year', hle using Nat.le_induction with
  | base => exact Nat.le_refl _
  | succ n hn ih =>
    rw [daysBeforeYear_succ (by omega)]
    omega

/-! ## Days -/

/-- `d.dayNumber` is beyond the days before its month. -/
theorem Exists.lt_dayNumber (h : d.Exists) :
    daysBeforeYear d.year + daysBeforeMonth d.year d.month < d.dayNumber := by
  have hday := h.day_pos
  rw [dayNumber]
  omega

/-- `d.dayNumber` is not beyond the days before the next month. -/
theorem Exists.dayNumber_le (h : d.Exists) :
    d.dayNumber ≤ daysBeforeYear d.year + daysBeforeMonth d.year (d.month + 1) := by
  have hday := h.day_le
  rw [dayNumber, daysBeforeMonth_succ h.month_pos]
  omega

/-- `d.dayNumber` is not beyond the days before the next year. -/
theorem Exists.dayNumber_le_year (h : d.Exists) : d.dayNumber ≤ daysBeforeYear (d.year + 1) := by
  have hmonth : d.month + 1 ≤ 13 := by
    have := h.month_le
    omega
  have hbefore := daysBeforeMonth_mono d.year hmonth
  have hday := h.dayNumber_le
  rw [daysBeforeYear_succ h.year_pos]
  omega

/-- `d.dayNumber = e.dayNumber`: of two days of one number, neither is in a later year. -/
theorem Exists.year_le_of_dayNumber_eq (hd : d.Exists) (he : e.Exists)
    (h : d.dayNumber = e.dayNumber) : d.year ≤ e.year := by
  by_contra hlt
  have hyears : daysBeforeYear (e.year + 1) ≤ daysBeforeYear d.year :=
    daysBeforeYear_mono (Nat.succ_pos _) (not_le.mp hlt)
  have hend := he.dayNumber_le_year
  have hbegin := hd.lt_dayNumber
  omega

/-- `d.dayNumber = e.dayNumber`: of two days of one number and year, neither is in a later month. -/
theorem Exists.month_le_of_dayNumber_eq (hd : d.Exists) (he : e.Exists) (hyear : d.year = e.year)
    (h : d.dayNumber = e.dayNumber) : d.month ≤ e.month := by
  by_contra hlt
  have hmonths : daysBeforeMonth e.year (e.month + 1) ≤ daysBeforeMonth e.year d.month :=
    daysBeforeMonth_mono e.year (not_le.mp hlt)
  have hend := he.dayNumber_le
  have hbegin := hd.lt_dayNumber
  rw [hyear] at hbegin
  omega

/-- `d.dayNumber = e.dayNumber`: the number of a day determines the day. -/
theorem dayNumber_inj (hd : d.Exists) (he : e.Exists) (h : d.dayNumber = e.dayNumber) : d = e := by
  -- The days of an earlier year come first, and within a year those of an earlier month.
  have hyear : d.year = e.year :=
    le_antisymm (hd.year_le_of_dayNumber_eq he h) (he.year_le_of_dayNumber_eq hd h.symm)
  have hmonth : d.month = e.month :=
    le_antisymm (hd.month_le_of_dayNumber_eq he hyear h)
      (he.month_le_of_dayNumber_eq hd hyear.symm h.symm)
  have hday : d.day = e.day := by
    rw [dayNumber, dayNumber, hyear, hmonth] at h
    omega
  cases d
  cases e
  simp only [mk.injEq]
  exact ⟨hyear, hmonth, hday⟩

end Date

namespace DateTime

/-- That a date and a clock can give a reading, and that its offset is less than a day. -/
structure Exists (t : DateTime) : Prop where
  date : t.date.Exists
  hour_lt : t.hour < 24
  minute_lt : t.minute < 60
  second_lt : t.second < 60
  microsecond_lt : t.microsecond < 1000000
  offset_lt : ∀ span ∈ t.offset, span.natAbs < 86400000000

variable {s t : DateTime}

/-- The offset of a reading that numbers make is the one that they give. -/
theorem offset_mk (date : Date) (hour minute second microsecond : Nat) (offset : Option Int) :
    (⟨date, hour, minute, second, microsecond, offset.map .fixed, false⟩ : DateTime).offset =
      offset := by
  cases offset <;> rfl

/-- The readings that exist at a fixed offset, or without one, are those that numbers make, with an
offset of less than a day or with none. -/
theorem ofNumbers_eq_ok_iff {date : Date} {hour minute second microsecond : Nat}
    {offset : Option Int} (hdate : date.Exists)
    (hoffset : ∀ span ∈ offset, span.natAbs < 86400000000) :
    ofNumbers date hour minute second microsecond offset = .ok t ↔
      t = ⟨date, hour, minute, second, microsecond, offset.map .fixed, false⟩ ∧ t.Exists := by
  unfold ofNumbers
  constructor
  · intro h
    split_ifs at h with hhour hminute hsecond hmicrosecond
    cases h
    refine ⟨rfl, hdate, ?_, ?_, ?_, ?_, by rwa [offset_mk]⟩ <;> dsimp only <;> omega
  · rintro ⟨rfl, -, hhour, hminute, hsecond, hmicrosecond, -⟩
    dsimp only at *
    rw [if_neg (by omega), if_neg (by omega), if_neg (by omega), if_neg (by omega)]

/-- `s.wallClock = t.wallClock`: the clock determines a reading of a zone, up to its fold. -/
theorem wallClock_inj (hs : s.Exists) (ht : t.Exists) (hzone : s.zone = t.zone)
    (h : s.wallClock = t.wallClock) : s = { t with fold := s.fold } := by
  obtain ⟨date, hour, minute, second, microsecond, zone, fold⟩ := s
  obtain ⟨date', hour', minute', second', microsecond', zone', fold'⟩ := t
  obtain ⟨hdate, hhour, hminute, hsecond, hmicrosecond, -⟩ := hs
  obtain ⟨hdate', hhour', hminute', hsecond', hmicrosecond', -⟩ := ht
  dsimp only [wallClock] at *
  -- Each field is below the number of its units in the next one.
  have hday : date.dayNumber = date'.dayNumber := by omega
  obtain rfl := Date.dayNumber_inj hdate hdate' hday
  obtain rfl : hour = hour' := by omega
  obtain rfl : minute = minute' := by omega
  obtain rfl : second = second' := by omega
  obtain rfl : microsecond = microsecond' := by omega
  rw [hzone]

end DateTime

end ObjectStore
