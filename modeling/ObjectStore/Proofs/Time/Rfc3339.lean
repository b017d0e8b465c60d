import Mathlib
import ObjectStore.Proofs.Text.Digits
import ObjectStore.Proofs.Time.Calendar

/-! # Date-times of RFC 3339

The grammar of date-times of RFC 3339, section 5.6, with the instant that each text denotes, in
seconds since the day before the first of January of year one. The stamp of a reading is such a text
and denotes the reading's instant if the offset is a whole number of minutes; other offsets are
written with seconds, for which the grammar has no place.

* `Rfc3339.Denotes`: a text of the grammar and the instant that it denotes, which is but one.
* `DateTime.denotes_stamp_iff`: which stamps are such texts, and what they denote. -/

namespace ObjectStore

namespace Rfc3339

/-! ## The grammar -/

/-- A number in decimal digits, `width` of them. -/
inductive Field (width : Nat) : Nat → List Char → Prop
  | intro {cs : List Char} (hlength : cs.length = width) (hdigits : ∀ c ∈ cs, c.isDigit = true) :
    Field width (Text.decimalNat cs) cs

/-- The number of the day `day`, counted from the first of January of year one also for the year
before. -/
def dayCount (year month day : Nat) : Int :=
  let y : Int := year - 1
  y * 365 + y / 4 - y / 100 + y / 400 + Date.daysBeforeMonth year month + day

/-- A day of the calendar, by its number. -/
inductive FullDate : Int → List Char → Prop
  | intro {year month day : Nat} {ys ms ds : List Char} (hyear : Field 4 year ys)
    (hmonth : Field 2 month ms) (hmonths : 1 ≤ month ∧ month ≤ 12) (hday : Field 2 day ds)
    (hdays : 1 ≤ day ∧ day ≤ Date.daysInMonth year month) :
    FullDate (dayCount year month day) (ys ++ '-' :: ms ++ '-' :: ds)

/-- A fraction of a second: none, or digits behind a point. -/
inductive SecondFraction : ℚ → List Char → Prop
  | none : SecondFraction 0 []
  | digits {cs : List Char} (hne : cs ≠ []) (hdigits : ∀ c ∈ cs, c.isDigit = true) :
    SecondFraction (Text.decimalNat cs / 10 ^ cs.length) ('.' :: cs)

/-- A time of day, in seconds. The second may be a leap second. -/
inductive PartialTime : ℚ → List Char → Prop
  | intro {hour minute second : Nat} {fraction : ℚ} {hs ms ss fs : List Char}
    (hhour : Field 2 hour hs) (hhours : hour ≤ 23) (hminute : Field 2 minute ms)
    (hminutes : minute ≤ 59) (hsecond : Field 2 second ss) (hseconds : second ≤ 60)
    (hfraction : SecondFraction fraction fs) :
    PartialTime (hour * 3600 + minute * 60 + second + fraction)
      (hs ++ ':' :: ms ++ ':' :: ss ++ fs)

/-- The number `n` with `sign` before it. -/
def signed (sign : Char) (n : Int) : Int := if sign = '-' then -n else n

/-- An offset from Universal Time, in minutes. -/
inductive Offset : Int → List Char → Prop
  | zulu {c : Char} (hc : c = 'Z' ∨ c = 'z') : Offset 0 [c]
  | numeric {sign : Char} {hour minute : Nat} {hs ms : List Char} (hsign : sign = '+' ∨ sign = '-')
    (hhour : Field 2 hour hs) (hhours : hour ≤ 23) (hminute : Field 2 minute ms)
    (hminutes : minute ≤ 59) :
    Offset (signed sign (hour * 60 + minute)) (sign :: hs ++ ':' :: ms)

/-- A date-time, and the instant that it denotes. -/
inductive Denotes : List Char → ℚ → Prop
  | intro {day minutes : Int} {seconds : ℚ} {ds ts os : List Char} {c : Char}
    (hdate : FullDate day ds) (hc : c = 'T' ∨ c = 't') (htime : PartialTime seconds ts)
    (hoffset : Offset minutes os) :
    Denotes (ds ++ c :: ts ++ os) (day * 86400 + seconds - minutes * 60)

variable {n : Nat} {cs : List Char} {i : ℚ}

/-- `Field width n (Text.decimal width n)` if `n` has no more digits. -/
theorem field_decimal {width : Nat} (hwidth : 0 < width) (h : n < 10 ^ width) :
    Field width n (Text.decimal width n) := by
  have hfield := Field.intro (Text.length_decimal hwidth h) (Text.isDigit_decimal width n)
  rwa [Text.decimalNat_decimal] at hfield

/-! ### Texts denote one instant -/

/-- `Field width m cs` for one number `m` only. -/
theorem Field.unique {width m : Nat} (h : Field width m cs) (h' : Field width n cs) : m = n := by
  obtain ⟨-, -⟩ := h
  obtain ⟨-, -⟩ := h'
  rfl

/-- `as ++ r = bs ++ s`: fields of one width are taken off the front of a text. -/
theorem Field.append_inj {width m : Nat} {as bs r s : List Char} (ha : Field width m as)
    (hb : Field width n bs) (h : as ++ r = bs ++ s) : m = n ∧ r = s := by
  obtain ⟨hlength, -⟩ := ha
  obtain ⟨hlength', -⟩ := hb
  obtain ⟨rfl, hrest⟩ := List.append_inj h (hlength.trans hlength'.symm)
  exact ⟨rfl, hrest⟩

/-- `as ++ c :: r = bs ++ c :: s`: A separator is taken off after a field. -/
theorem Field.append_cons_inj {width m : Nat} {as bs r s : List Char} {c : Char}
    (ha : Field width m as) (hb : Field width n bs) (h : as ++ c :: r = bs ++ c :: s) :
    m = n ∧ r = s := by
  obtain ⟨hvalue, hrest⟩ := ha.append_inj hb h
  exact ⟨hvalue, (List.cons.inj hrest).2⟩

/-- `as ++ r = bs ++ s`: full dates are taken off a text. -/
theorem FullDate.append_inj {d e : Int} {as bs r s : List Char} (ha : FullDate d as)
    (hb : FullDate e bs) (h : as ++ r = bs ++ s) : d = e ∧ r = s := by
  obtain ⟨hyear, hmonth, -, hday, -⟩ := ha
  obtain ⟨hyear', hmonth', -, hday', -⟩ := hb
  simp only [List.append_assoc, List.cons_append] at h
  obtain ⟨rfl, h⟩ := hyear.append_cons_inj hyear' h
  obtain ⟨rfl, h⟩ := hmonth.append_cons_inj hmonth' h
  obtain ⟨rfl, h⟩ := hday.append_inj hday' h
  exact ⟨rfl, h⟩

/-- No offset begins as a fraction does or goes on. -/
theorem Offset.head {minutes : Int} {os : List Char} (h : Offset minutes os) :
    ∀ c ∈ os.head?, c.isDigit = false ∧ c ≠ '.' := by
  intro c hc
  cases h with
  | zulu hletter =>
    cases hc
    rcases hletter with rfl | rfl <;> decide
  | numeric hsign =>
    cases hc
    rcases hsign with rfl | rfl <;> decide

/-- `Offset minutes os` for one number of minutes only. -/
theorem Offset.unique {minutes minutes' : Int} {os : List Char} (h : Offset minutes os)
    (h' : Offset minutes' os) : minutes = minutes' := by
  generalize htext : os = text at h'
  have hlength := congrArg List.length htext
  cases h with
  | zulu hc =>
    cases h' with
    | zulu => rfl
    | numeric => simp at hlength
  | numeric _ hhour _ hminute _ =>
    cases h' with
    | zulu => simp at hlength
    | numeric _ hhour' _ hminute' _ =>
      rw [List.cons_append, List.cons_append, List.cons.injEq] at htext
      obtain ⟨rfl, htext⟩ := htext
      obtain ⟨rfl, rfl⟩ := hhour.append_cons_inj hhour' htext
      rw [hminute.unique hminute']

/-- `as ++ os = bs ++ os'`: A fraction ends where the offset begins. -/
theorem SecondFraction.append_inj {p q : ℚ} {minutes minutes' : Int} {as bs os os' : List Char}
    (ha : SecondFraction p as) (hb : SecondFraction q bs) (ho : Offset minutes os)
    (ho' : Offset minutes' os') (h : as ++ os = bs ++ os') : p = q ∧ os = os' := by
  cases ha with
  | none =>
    cases hb with
    | none => exact ⟨rfl, h⟩
    | digits =>
      -- A fraction begins with a point, and no offset does.
      rw [List.nil_append] at h
      exact absurd rfl (ho.head '.' (by rw [h]; rfl)).2
  | digits hne hdigits =>
    cases hb with
    | none =>
      rw [List.nil_append] at h
      exact absurd rfl (ho'.head '.' (by rw [← h]; rfl)).2
    | digits hne' hdigits' =>
      obtain ⟨rfl, hrest⟩ := Text.append_inj_of_stop hdigits hdigits' (fun c hc => (ho.head c hc).1)
        (fun c hc => (ho'.head c hc).1) (List.cons.inj h).2
      exact ⟨rfl, hrest⟩

/-- `as ++ os = bs ++ os'`: times of day are taken off a text, before an offset. -/
theorem PartialTime.append_inj {p q : ℚ} {minutes minutes' : Int} {as bs os os' : List Char}
    (ha : PartialTime p as) (hb : PartialTime q bs) (ho : Offset minutes os)
    (ho' : Offset minutes' os') (h : as ++ os = bs ++ os') : p = q ∧ os = os' := by
  obtain ⟨hhour, -, hminute, -, hsecond, -, hfraction⟩ := ha
  obtain ⟨hhour', -, hminute', -, hsecond', -, hfraction'⟩ := hb
  simp only [List.append_assoc, List.cons_append] at h
  obtain ⟨rfl, h⟩ := hhour.append_cons_inj hhour' h
  obtain ⟨rfl, h⟩ := hminute.append_cons_inj hminute' h
  obtain ⟨rfl, h⟩ := hsecond.append_inj hsecond' h
  obtain ⟨rfl, h⟩ := hfraction.append_inj hfraction' ho ho' h
  exact ⟨rfl, h⟩

/-- `Denotes cs i` for one instant `i` only. -/
theorem Denotes.unique {j : ℚ} (h : Denotes cs i) (h' : Denotes cs j) : i = j := by
  generalize htext : cs = text at h'
  obtain ⟨hdate, -, htime, hoffset⟩ := h
  obtain ⟨hdate', -, htime', hoffset'⟩ := h'
  simp only [List.append_assoc, List.cons_append] at htext
  obtain ⟨rfl, htext⟩ := hdate.append_inj hdate' htext
  obtain ⟨rfl, rfl⟩ := htime.append_inj htime' hoffset hoffset' (List.cons.inj htext).2
  rw [hoffset.unique hoffset']

/-! ### The last characters of texts -/

/-- Among the last six characters of a date-time is a letter or a sign. -/
theorem Denotes.exists_mem_lastSix (h : Denotes cs i) {before lastSix : List Char}
    (hcs : cs = before ++ lastSix) (hlength : lastSix.length = 6) :
    ∃ c ∈ lastSix, c ≠ ':' ∧ c.isDigit = false := by
  obtain ⟨-, -, -, hoffset⟩ := h
  cases hoffset with
  | @zulu c hc =>
    have hne : lastSix ≠ [] := List.ne_nil_of_length_pos (by omega)
    have hlast := congrArg List.getLast? hcs
    rw [List.getLast?_concat, List.getLast?_append_of_ne_nil _ hne] at hlast
    refine ⟨c, List.mem_of_getLast? hlast.symm, ?_⟩
    rcases hc with rfl | rfl <;> decide
  | @numeric sign hour minute hs ms hsign hhour _ hminute _ =>
    -- It takes up the last six characters.
    obtain ⟨hhs, -⟩ := hhour
    obtain ⟨hms, -⟩ := hminute
    have hsame : (sign :: hs ++ ':' :: ms).length = lastSix.length := by
      rw [hlength, List.length_append, List.length_cons, List.length_cons, hhs, hms]
    rw [← (List.append_inj' hcs hsame).2]
    refine ⟨sign, List.mem_append_left _ List.mem_cons_self, ?_⟩
    rcases hsign with rfl | rfl <;> decide

end Rfc3339

/-! ## Stamps -/

/-- `dayCount d.year d.month d.day = d.dayNumber`: the number of a day that exists is its count. -/
theorem Date.Exists.dayCount_eq {d : Date} (h : d.Exists) :
    Rfc3339.dayCount d.year d.month d.day = d.dayNumber := by
  obtain ⟨n, hn⟩ := Nat.exists_eq_add_of_lt h.year_pos
  rw [Nat.zero_add] at hn
  have hcenturies : n / 100 ≤ n * 365 + n / 4 := by omega
  rw [Rfc3339.dayCount, dayNumber, daysBeforeYear, hn, Nat.add_sub_cancel]
  push_cast [Nat.cast_sub hcenturies]
  rw [add_sub_cancel_right]

/-- `FullDate d.dayNumber d.text`: the text of a day of the calendar is a full date. -/
theorem Date.Exists.fullDate {d : Date} (h : d.Exists) : Rfc3339.FullDate d.dayNumber d.text := by
  have hyear := h.year_le
  have hmonth := h.month_le
  have hday : d.day < 10 ^ 2 := by
    have hdays : daysInMonth d.year d.month ≤ 31 := by
      unfold daysInMonth
      split <;> (try split) <;> omega
    have := h.day_le
    omega
  rw [← h.dayCount_eq]
  exact .intro (Rfc3339.field_decimal (by decide) (by omega))
    (Rfc3339.field_decimal (by decide) (by omega)) ⟨h.month_pos, h.month_le⟩
    (Rfc3339.field_decimal (by decide) hday) ⟨h.day_pos, h.day_le⟩

namespace DateTime

variable {t : DateTime}

/-- That the offset of `t` is a whole number of minutes; a naive reading is taken to be at offset
zero. -/
def WholeMinutes (t : DateTime) : Prop := 60000000 ∣ t.offset.getD 0

instance (t : DateTime) : Decidable t.WholeMinutes :=
  inferInstanceAs (Decidable (60000000 ∣ t.offset.getD 0))

/-- The instant of `t`, in seconds; a naive reading is taken to be at offset zero. -/
def seconds (t : DateTime) : ℚ := ((t.wallClock - t.offset.getD 0 : Int) : ℚ) / 1000000

/-- `fractionText microsecond` is a fraction of a second. -/
theorem fractionText_secondFraction {microsecond : Nat} (h : microsecond < 1000000) :
    Rfc3339.SecondFraction (microsecond / 1000000) (fractionText microsecond) := by
  rw [fractionText]
  by_cases hzero : microsecond = 0
  · rw [if_pos hzero, hzero, Nat.cast_zero, zero_div]
    exact .none
  · have hdigits := Rfc3339.SecondFraction.digits (Text.decimal_ne_nil 6 microsecond)
      (Text.isDigit_decimal 6 microsecond)
    rw [Text.decimalNat_decimal, Text.length_decimal (by decide) (by omega)] at hdigits
    rw [if_neg hzero]
    norm_num at hdigits
    exact hdigits

/-- `t.timeText` is a time of day. -/
theorem Exists.partialTime (h : t.Exists) :
    Rfc3339.PartialTime (t.hour * 3600 + t.minute * 60 + t.second + t.microsecond / 1000000)
      t.timeText := by
  have hhour := h.hour_lt
  have hminute := h.minute_lt
  have hsecond := h.second_lt
  exact .intro (Rfc3339.field_decimal (by decide) (by omega)) (by omega)
    (Rfc3339.field_decimal (by decide) (by omega)) (by omega)
    (Rfc3339.field_decimal (by decide) (by omega)) (by omega)
    (fractionText_secondFraction h.microsecond_lt)

/-- `Offset minutes (offsetText (minutes * 60000000))`: the text of an offset of whole minutes, less
than a day, denotes it. -/
theorem offset_offsetText {minutes : Int} (h : minutes.natAbs < 1440) :
    Rfc3339.Offset minutes (offsetText (minutes * 60000000)) := by
  have hnatAbs : (minutes * 60000000).natAbs = minutes.natAbs * 60000000 := by omega
  have hhour : minutes.natAbs * 60000000 / 1000000 / 3600 = minutes.natAbs / 60 := by omega
  have hminute : minutes.natAbs * 60000000 / 1000000 / 60 % 60 = minutes.natAbs % 60 := by omega
  have hwhole : minutes.natAbs * 60000000 % 60000000 = 0 := by omega
  simp only [offsetText, hnatAbs, hhour, hminute, if_pos hwhole, List.append_nil]
  have hfield : ∀ n, n < 10 ^ 2 → Rfc3339.Field 2 n (Text.decimal 2 n) := fun n hn =>
    Rfc3339.field_decimal (by decide) hn
  -- The minutes are less than a day, so that their hours have two digits.
  have hhours := hfield (minutes.natAbs / 60) (by omega)
  have hminutes := hfield (minutes.natAbs % 60) (by omega)
  by_cases hneg : minutes < 0
  · have hsplit : minutes = Rfc3339.signed '-'
        ((minutes.natAbs / 60 : Nat) * 60 + (minutes.natAbs % 60 : Nat)) := by
      rw [Rfc3339.signed, if_pos rfl]
      omega
    rw [if_pos (by omega)]
    nth_rewrite 1 [hsplit]
    exact .numeric (.inr rfl) hhours (by omega) hminutes (by omega)
  · have hsplit : minutes = Rfc3339.signed '+'
        ((minutes.natAbs / 60 : Nat) * 60 + (minutes.natAbs % 60 : Nat)) := by
      rw [Rfc3339.signed, if_neg (by decide)]
      omega
    rw [if_neg (by omega)]
    nth_rewrite 1 [hsplit]
    exact .numeric (.inl rfl) hhours (by omega) hminutes (by omega)

/-- `Denotes t.stamp t.seconds`: the stamp of a reading whose offset is a whole number of minutes is
a date-time that denotes the reading's instant. -/
theorem stamp_denotes (ht : t.Exists) (hwhole : t.WholeMinutes) :
    Rfc3339.Denotes t.stamp t.seconds := by
  obtain ⟨minutes, hminutes⟩ := hwhole
  -- A naive reading is at offset zero, and that of an aware one is less than a day.
  have hspan : minutes.natAbs < 1440 := by
    cases hoffset : t.offset with
    | none =>
      rw [hoffset, Option.getD_none] at hminutes
      omega
    | some span =>
      have hday := ht.offset_lt span hoffset
      rw [hoffset, Option.getD_some] at hminutes
      omega
  have hdenotes := Rfc3339.Denotes.intro ht.date.fullDate (.inl rfl) ht.partialTime
    (offset_offsetText hspan)
  have hstamp : t.stamp = t.date.text ++ 'T' :: t.timeText ++ offsetText (minutes * 60000000) := by
    rw [mul_comm, ← hminutes]
    rfl
  have hinstant : t.seconds = (t.date.dayNumber : Int) * 86400 +
      (t.hour * 3600 + t.minute * 60 + t.second + t.microsecond / 1000000) - minutes * 60 := by
    rw [seconds, hminutes, wallClock]
    push_cast
    ring
  rw [hstamp, hinstant]
  exact hdenotes

/-- The last six characters of `offsetText span`, for an offset that is no whole number of minutes,
are colons and digits: those of its minutes and seconds, or of its microseconds. -/
theorem exists_lastSix_offsetText {span : Int} (h : ¬ 60000000 ∣ span) :
    ∃ before lastSix, offsetText span = before ++ lastSix ∧ lastSix.length = 6 ∧
      ∀ c ∈ lastSix, c = ':' ∨ c.isDigit = true := by
  have hnatAbs : ¬ span.natAbs % 60000000 = 0 := by omega
  have hdigits : ∀ width n, ∀ c ∈ Text.decimal width n, c = ':' ∨ c.isDigit = true :=
    fun width n c hc => .inr (Text.isDigit_decimal width n c hc)
  have hlength : ∀ n, (Text.decimal 2 (n % 60)).length = 2 := fun n =>
    Text.length_decimal (by decide) (by omega)
  simp only [offsetText, if_neg hnatAbs, fractionText]
  generalize (if span < 0 then '-' else '+') :: Text.decimal 2 (span.natAbs / 1000000 / 3600) = hs
  by_cases hmicrosecond : span.natAbs % 1000000 = 0
  · -- No microseconds: the minutes and seconds are the last.
    refine ⟨hs,
      ':' :: Text.decimal 2 (span.natAbs / 1000000 / 60 % 60) ++
        ':' :: Text.decimal 2 (span.natAbs / 1000000 % 60), ?_, ?_, ?_⟩
    · rw [if_pos hmicrosecond, List.append_nil, List.append_assoc]
    · rw [List.length_append, List.length_cons, List.length_cons, hlength, hlength]
    · intro c hc
      rcases List.mem_append.mp hc with hc | hc
      · exact List.forall_mem_cons.mpr ⟨.inl rfl, hdigits _ _⟩ c hc
      · exact List.forall_mem_cons.mpr ⟨.inl rfl, hdigits _ _⟩ c hc
  · -- The six digits of the microseconds.
    refine ⟨hs ++ ':' :: Text.decimal 2 (span.natAbs / 1000000 / 60 % 60) ++
        ':' :: Text.decimal 2 (span.natAbs / 1000000 % 60) ++ ['.'],
      Text.decimal 6 (span.natAbs % 1000000), ?_, ?_, hdigits _ _⟩
    · simp only [if_neg hmicrosecond, List.append_assoc, List.cons_append, List.nil_append]
    · exact Text.length_decimal (by decide) (by omega)

/-- `¬ Denotes t.stamp i`: the stamp of a reading whose offset is no whole number of minutes denotes
nothing. -/
theorem stamp_not_denotes (hpart : ¬ t.WholeMinutes) (i : ℚ) : ¬ Rfc3339.Denotes t.stamp i := by
  intro hdenotes
  -- The grammar has a letter or a sign where such a stamp has colons and digits.
  obtain ⟨before, lastSix, htext, hlength, hall⟩ := exists_lastSix_offsetText hpart
  have hstamp : t.stamp = t.date.text ++ 'T' :: t.timeText ++ before ++ lastSix := by
    rw [List.append_assoc _ before, ← htext]
    rfl
  obtain ⟨c, hc, hcolon, hdigit⟩ := hdenotes.exists_mem_lastSix hstamp hlength
  rcases hall c hc with rfl | hc
  · exact hcolon rfl
  · rw [hdigit] at hc
    cases hc

/-- `Denotes t.stamp i ↔ t.WholeMinutes ∧ i = t.seconds`: the stamp of a reading denotes the
reading's instant and no other, unless its offset is no whole number of minutes: then it is no
date-time. -/
theorem denotes_stamp_iff (ht : t.Exists) (i : ℚ) :
    Rfc3339.Denotes t.stamp i ↔ t.WholeMinutes ∧ i = t.seconds := by
  constructor
  · intro hdenotes
    have hwhole : t.WholeMinutes := by
      by_contra hpart
      exact stamp_not_denotes hpart i hdenotes
    exact ⟨hwhole, hdenotes.unique (stamp_denotes ht hwhole)⟩
  · rintro ⟨hwhole, rfl⟩
    exact stamp_denotes ht hwhole

end DateTime

end ObjectStore
