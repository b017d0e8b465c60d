import Mathlib
import ObjectStore.Number.Reader
import ObjectStore.Proofs.Number.ShortestDecimal
import ObjectStore.Proofs.Text.Digits

/-! # Decimal texts are read back

The reader of decimals recovers from the text of a magnitude a decimal that reads back as it,
however the digits were laid out. So no two finite doubles have the same text.

* `readsValue_layOut`: the reader recovers the value of laid out digits.
* `readDecimal?_magnitudeText`: from the text of a magnitude it recovers a decimal for it.
* `text_inj`: the text of a finite double determines it. -/

namespace ObjectStore

namespace Double

/-- That no digit and no underscore follows in `rest`. -/
def EndsDigits (rest : List Char) : Prop := ∀ c ∈ rest.head?, c.isDigit = false ∧ c ≠ '_'

/-- `EndsDigits []`. -/
theorem endsDigits_nil : EndsDigits [] := fun _ h => absurd h (by simp)

/-- `EndsDigits ('e' :: cs)`: digits end before an exponent. -/
theorem endsDigits_exponent (cs : List Char) : EndsDigits ('e' :: cs) := by
  intro c hc
  cases hc
  exact ⟨rfl, by decide⟩

/-- `takeDigits after (ds ++ rest) = (ds, rest)` if the digits end before `rest`. -/
theorem takeDigits_append {ds rest : List Char} (hds : ∀ c ∈ ds, c.isDigit = true)
    (hrest : EndsDigits rest) (after : Bool) : takeDigits after (ds ++ rest) = (ds, rest) := by
  induction ds generalizing after with
  | nil =>
    cases rest with
    | nil => rfl
    | cons c cs =>
      obtain ⟨hdigit, hunderscore⟩ := hrest c rfl
      simp [takeDigits, hdigit, hunderscore]
  | cons d ds ih =>
    rw [List.cons_append, takeDigits, if_pos (hds d List.mem_cons_self),
      ih fun c hc => hds c (List.mem_cons_of_mem _ hc)]

/-! ## Reading what was laid out -/

/-- `readExponent?` reads an exponent with its mark back. -/
theorem readExponent?_mark (width : Nat) (exponent : Int) :
    readExponent? ((if exponent < 0 then ['e', '-'] else ['e', '+']) ++
      Text.decimal width exponent.natAbs) = some exponent := by
  have htake := takeDigits_append (Text.isDigit_decimal width exponent.natAbs) endsDigits_nil false
  rw [List.append_nil] at htake
  have hne := Text.decimal_ne_nil width exponent.natAbs
  have hvalue := Text.decimalNat_decimal width exponent.natAbs
  split
  · next hneg =>
    simp only [List.cons_append, List.nil_append, readExponent?, takeSign, htake]
    simp [hne, hvalue, -Nat.cast_natAbs]
    omega
  · next hneg =>
    simp only [List.cons_append, List.nil_append, readExponent?, takeSign, htake]
    simp [hne, hvalue, -Nat.cast_natAbs]
    omega

/-- `readDecimal?` reads a whole part, a point, digits after it and an exponent. -/
theorem readDecimal?_point {whole fraction rest : List Char} {e : Int}
    (hwhole : ∀ c ∈ whole, c.isDigit = true) (hne : whole ≠ [])
    (hfraction : ∀ c ∈ fraction, c.isDigit = true) (hrest : EndsDigits rest)
    (he : readExponent? rest = some e) :
    readDecimal? (whole ++ '.' :: (fraction ++ rest)) =
      some (Text.decimalNat (whole ++ fraction), (whole ++ fraction).length,
        e - fraction.length) := by
  have hpoint : EndsDigits ('.' :: (fraction ++ rest)) := by
    intro c hc
    cases hc
    exact ⟨rfl, by decide⟩
  simp [readDecimal?, takeDigits_append hwhole hpoint, takeDigits_append hfraction hrest, hne, he]

/-- `readDecimal?` reads a whole part and an exponent. -/
theorem readDecimal?_whole {whole rest : List Char} {e : Int}
    (hwhole : ∀ c ∈ whole, c.isDigit = true) (hne : whole ≠ []) (hrest : EndsDigits rest)
    (hpoint : ∀ cs, rest ≠ '.' :: cs) (he : readExponent? rest = some e) :
    readDecimal? (whole ++ rest) = some (Text.decimalNat whole, whole.length, e) := by
  unfold readDecimal?
  rw [takeDigits_append hwhole hrest]
  dsimp only
  split
  · exact absurd rfl (hpoint _)
  · simp [hne, he]

/-- That the reader recovers from `cs` a decimal of `value`. -/
def ReadsValue (cs : List Char) (value : ℚ) : Prop :=
  ∃ digits count e, readDecimal? cs = some (digits, count, e) ∧ (digits : ℚ) * 10 ^ e = value

/-- Digits with a point among them are read as their value, scaled by the exponent behind them. -/
theorem readsValue_point {whole fraction rest : List Char} {e : Int}
    (hwhole : ∀ c ∈ whole, c.isDigit = true) (hne : whole ≠ [])
    (hfraction : ∀ c ∈ fraction, c.isDigit = true) (hrest : EndsDigits rest)
    (he : readExponent? rest = some e) :
    ReadsValue (whole ++ '.' :: (fraction ++ rest))
      (Text.decimalNat (whole ++ fraction) * 10 ^ (e - fraction.length)) :=
  ⟨_, _, _, readDecimal?_point hwhole hne hfraction hrest he, rfl⟩

section LayOut

variable {chars : List Char}

/-- `ReadsValue`, where all digits are behind the point, after `k` zeros. -/
theorem readsValue_behind (hdigits : ∀ c ∈ chars, c.isDigit = true) (k : Nat) :
    ReadsValue ('0' :: '.' :: (List.replicate k '0' ++ chars))
      (Text.decimalNat chars * 10 ^ (-(k : Int) - chars.length)) := by
  have hzero : ∀ c ∈ ['0'], c.isDigit = true := by simp
  have hfraction := Text.isDigit_append (fun _ => Text.isDigit_replicate (k := k)) hdigits
  have hread := readsValue_point hzero (List.cons_ne_nil _ _) hfraction endsDigits_nil (e := 0) rfl
  have hvalue : Text.decimalNat (['0'] ++ (List.replicate k '0' ++ chars)) =
      Text.decimalNat chars := Text.decimalNat_replicate_append hdigits (k + 1)
  have hexp : (0 : Int) - (List.replicate k '0' ++ chars).length = -(k : Int) - chars.length := by
    rw [List.length_append, List.length_replicate]
    omega
  rw [hvalue, hexp, List.append_nil] at hread
  exact hread

/-- `ReadsValue`, where all digits are before the point, and `k` zeros after them. -/
theorem readsValue_before (hdigits : ∀ c ∈ chars, c.isDigit = true) (hne : chars ≠ []) (k : Nat) :
    ReadsValue (chars ++ List.replicate k '0' ++ ['.', '0'])
      (Text.decimalNat chars * 10 ^ (k : Int)) := by
  have hzero : ∀ c ∈ ['0'], c.isDigit = true := by simp
  have hwhole := Text.isDigit_append hdigits fun _ => Text.isDigit_replicate (k := k)
  have hread := readsValue_point hwhole (List.append_ne_nil_of_left_ne_nil hne _) hzero
    endsDigits_nil (e := 0) rfl
  have hvalue : Text.decimalNat (chars ++ List.replicate k '0' ++ ['0']) =
      Text.decimalNat chars * 10 ^ (k + 1) := by
    rw [List.append_assoc, ← List.replicate_succ', Text.decimalNat_append_replicate hdigits]
  -- The zero behind the point adds a digit and takes it back in the exponent.
  have hpow : ((Text.decimalNat chars * 10 ^ (k + 1) : Nat) : ℚ) * 10 ^ ((0 : Int) - (1 : Nat)) =
      Text.decimalNat chars * 10 ^ (k : Int) := by
    have hexp : (k : Int) = (k + 1 : Nat) + ((0 : Int) - (1 : Nat)) := by omega
    rw [hexp, zpow_add₀ (by norm_num), zpow_natCast]
    push_cast
    ring
  rw [hvalue, List.append_nil] at hread
  rw [← hpow]
  exact hread

/-- `ReadsValue`, where the point is between the digits. -/
theorem readsValue_between (hdigits : ∀ c ∈ chars, c.isDigit = true) (hne : chars ≠ []) {n : Nat}
    (hn : n + 1 ≤ chars.length) :
    ReadsValue (chars.take (n + 1) ++ '.' :: chars.drop (n + 1))
      (Text.decimalNat chars * 10 ^ ((n : Int) + 1 - chars.length)) := by
  have htake : ∀ c ∈ chars.take (n + 1), c.isDigit = true :=
    fun c hc => hdigits c (List.mem_of_mem_take hc)
  have hdrop : ∀ c ∈ chars.drop (n + 1), c.isDigit = true :=
    fun c hc => hdigits c (List.mem_of_mem_drop hc)
  have hwhole : chars.take (n + 1) ≠ [] := by simpa using hne
  have hread := readsValue_point htake hwhole hdrop endsDigits_nil (e := 0) rfl
  have hexp : (0 : Int) - (chars.drop (n + 1)).length = n + 1 - chars.length := by
    rw [List.length_drop]
    omega
  rw [List.take_append_drop, hexp, List.append_nil] at hread
  exact hread

/-- `ReadsValue`, where one digit is before the point, if there are others behind it, and an
exponent follows. -/
theorem readsValue_exponent (hdigits : ∀ c ∈ chars, c.isDigit = true) (hne : chars ≠ [])
    (width : Nat) (exponent : Int) :
    ReadsValue (chars.take 1 ++ (if (chars.drop 1).isEmpty then [] else '.' :: chars.drop 1) ++
        (if exponent < 0 then ['e', '-'] else ['e', '+']) ++ Text.decimal width exponent.natAbs)
      (Text.decimalNat chars * 10 ^ (exponent + 1 - chars.length)) := by
  have htake : ∀ c ∈ chars.take 1, c.isDigit = true :=
    fun c hc => hdigits c (List.mem_of_mem_take hc)
  have hdrop : ∀ c ∈ chars.drop 1, c.isDigit = true :=
    fun c hc => hdigits c (List.mem_of_mem_drop hc)
  have hfirst : chars.take 1 ≠ [] := by simpa using hne
  have hlength := List.length_pos_iff.2 hne
  have hmark := readExponent?_mark width exponent
  have hends : EndsDigits ((if exponent < 0 then ['e', '-'] else ['e', '+']) ++
      Text.decimal width exponent.natAbs) := by
    split <;> exact endsDigits_exponent _
  rw [List.append_assoc]
  split
  · next hempty =>
    -- One digit alone, without a point.
    have hone : chars.length = 1 := by
      rw [List.isEmpty_iff_length_eq_zero, List.length_drop] at hempty
      omega
    have hread := readDecimal?_whole htake hfirst hends (by split <;> simp) hmark
    rw [List.append_nil]
    refine ⟨_, _, _, hread, ?_⟩
    rw [List.take_of_length_le hone.le, hone]
    congr 2
    omega
  · -- A digit, a point and the others.
    have hread := readsValue_point htake hfirst hdrop hends hmark
    have hexp : exponent - (chars.drop 1).length = exponent + 1 - chars.length := by
      rw [List.length_drop]
      omega
    rw [List.take_append_drop, hexp] at hread
    rw [List.append_assoc, List.cons_append]
    exact hread

/-- `ReadsValue (layOut layout chars exponent)`: the reader recovers the value of laid out
digits. -/
theorem readsValue_layOut (hdigits : ∀ c ∈ chars, c.isDigit = true) (hne : chars ≠ [])
    (exponent : Int) :
    ReadsValue (layOut layout chars exponent)
      (Text.decimalNat chars * 10 ^ (exponent + 1 - chars.length)) := by
  unfold layOut
  split
  · split
    · next hneg =>
      -- positional, below one
      obtain ⟨k, rfl⟩ : ∃ k : Nat, exponent = -(k + 1 : Nat) :=
        ⟨(-exponent).toNat - 1, by omega⟩
      have hexp : -((k + 1 : Nat) : Int) + 1 - chars.length = -(k : Int) - chars.length := by omega
      rw [hexp, neg_neg, Int.toNat_natCast, Nat.add_sub_cancel]
      exact readsValue_behind hdigits k
    · next hnonneg =>
      obtain ⟨n, rfl⟩ := Int.eq_ofNat_of_zero_le (Int.not_lt.1 hnonneg)
      dsimp only [Int.toNat_natCast]
      by_cases hlen : chars.length ≤ n + 1
      · -- positional, and no digit is left for the fraction
        obtain ⟨k, hk⟩ : ∃ k, n + 1 = chars.length + k := Nat.exists_eq_add_of_le hlen
        have hexp : (n : Int) + 1 - chars.length = k := by omega
        rw [List.drop_eq_nil_of_le hlen, List.take_of_length_le hlen, List.isEmpty_nil, if_pos rfl,
          hk, Nat.add_sub_cancel_left, hexp]
        exact readsValue_before hdigits hne k
      · -- positional, with a fraction
        have hlt : n + 1 < chars.length := Nat.lt_of_not_le hlen
        have hfraction : (chars.drop (n + 1)).isEmpty = false := by
          rw [List.isEmpty_eq_false_iff, ← List.length_pos_iff, List.length_drop]
          omega
        rw [List.length_take_of_le hlt.le, Nat.sub_self, List.replicate_zero, List.append_nil,
          hfraction]
        exact readsValue_between hdigits hne hlt.le
  · -- with an exponent
    exact readsValue_exponent hdigits hne layout.exponentDigits exponent

end LayOut

/-! ## Texts of magnitudes and doubles -/

/-- `trimZeros`: moving zeros into the exponent keeps the value. -/
theorem value_trimZeros (fuel digits : Nat) (exponent : Int) :
    ((trimZeros fuel digits exponent).1 : ℚ) * 10 ^ (trimZeros fuel digits exponent).2 =
      digits * 10 ^ exponent := by
  induction fuel generalizing digits exponent with
  | zero => rfl
  | succ fuel ih =>
    rw [trimZeros]
    split
    · next h =>
      have hmod : digits % 10 = 0 := by
        simp only [Bool.and_eq_true, decide_eq_true_eq] at h
        exact h.1
      have hdigits : (digits : ℚ) = (digits / 10 : Nat) * 10 := by
        exact_mod_cast (Nat.div_mul_cancel (Nat.dvd_of_mod_eq_zero hmod)).symm
      rw [ih, hdigits, zpow_add₀ (by norm_num), zpow_one]
      ring
    · rfl

/-- `readDecimal? (magnitudeText units)`: from the text of a magnitude the reader recovers a decimal
that reads back as it. -/
theorem readDecimal?_magnitudeText {units : Nat} (h : IsMagnitude units) :
    ∃ digits count e, readDecimal? (magnitudeText units) = some (digits, count, e) ∧
      readsBack units digits e = true := by
  unfold magnitudeText
  split
  · next h0 =>
    -- `0.0`.
    subst h0
    refine ⟨0, 2, -1, rfl, ?_⟩
    rw [readsBack_iff, Nat.zero_mul]
    simp [roundUnits, nearest]
  · next h0 =>
    -- The shortest digits that read back, without zeros at the end, which change nothing of the
    -- value.
    have hshortest := readsBack_shortest h h0
    have hvalue := value_trimZeros 20 (shortest units).1 (shortest units).2
    generalize shortest units = decimal at hshortest hvalue ⊢
    obtain ⟨digits, exponent⟩ := decimal
    dsimp only at hshortest hvalue ⊢
    generalize trimZeros 20 digits exponent = trimmed at hvalue ⊢
    obtain ⟨digits', exponent'⟩ := trimmed
    dsimp only at hvalue ⊢
    obtain ⟨digits'', count, e, hread, hvalue'⟩ :=
      readsValue_layOut (fun _ => Text.isDigit_toDigits) Nat.toDigits_ne_nil
        (exponent' + (Nat.toDigits 10 digits').length - 1)
    refine ⟨digits'', count, e, hread, ?_⟩
    have hexp : exponent' + (Nat.toDigits 10 digits').length - 1 + 1 -
        (Nat.toDigits 10 digits').length = exponent' := by omega
    rw [Text.decimalNat_toDigits, hexp] at hvalue'
    rw [readsBack_congr (hvalue'.trans hvalue)]
    exact hshortest

/-- `magnitudeText units = magnitudeText units'`: no two magnitudes have the same text. -/
theorem magnitudeText_inj {units units' : Nat} (h : IsMagnitude units) (h' : IsMagnitude units')
    (heq : magnitudeText units = magnitudeText units') : units = units' := by
  obtain ⟨digits, count, e, hread, hback⟩ := readDecimal?_magnitudeText h
  obtain ⟨digits', count', e', hread', hback'⟩ := readDecimal?_magnitudeText h'
  rw [heq, hread', Option.some.injEq, Prod.mk.injEq, Prod.mk.injEq] at hread
  obtain ⟨rfl, rfl, rfl⟩ := hread
  exact eq_of_readsBack hback hback'

/-- `magnitudeText units ≠ '-' :: cs`: the text of a magnitude begins with no minus. -/
theorem magnitudeText_ne_minus {units : Nat} (h : IsMagnitude units) (cs : List Char) :
    magnitudeText units ≠ '-' :: cs := by
  intro heq
  obtain ⟨digits, count, e, hread, -⟩ := readDecimal?_magnitudeText h
  rw [heq] at hread
  cases hread

/-- `x.text = y.text`: no two finite doubles have the same text. -/
theorem text_inj {x y : Double} (hx : x.isFinite = true) (hy : y.isFinite = true)
    (h : x.text = y.text) : x = y := by
  cases x with
  | nan => cases hx
  | infinite s => cases hx
  | finite s u hu =>
    cases y with
    | nan => cases hy
    | infinite s => cases hy
    | finite t v hv =>
      have hchars := congrArg String.toList h
      simp only [text, String.toList_ofList] at hchars
      -- A minus tells the signs apart, since no magnitude begins with one.
      cases s <;> cases t
      · obtain rfl := magnitudeText_inj hu hv hchars
        rfl
      · exact absurd hchars (magnitudeText_ne_minus hu _)
      · exact absurd hchars.symm (magnitudeText_ne_minus hv _)
      · obtain rfl := magnitudeText_inj hu hv (List.tail_eq_of_cons_eq hchars)
        rfl

/-! ## Characters of texts -/

/-- `layOut layout chars exponent` lays digits out in characters of numbers. -/
theorem isNumeralChar_layOut {chars : List Char} (hdigits : ∀ c ∈ chars, c.isDigit = true)
    (exponent : Int) : ∀ c ∈ layOut layout chars exponent, Text.isNumeralChar c = true := by
  have hchars : ∀ c ∈ chars, Text.isNumeralChar c = true :=
    fun c hc => Text.isNumeralChar_of_isDigit (hdigits c hc)
  have htake : ∀ k, ∀ c ∈ chars.take k, Text.isNumeralChar c = true :=
    fun k c hc => hchars c (List.mem_of_mem_take hc)
  have hdrop : ∀ k, ∀ c ∈ chars.drop k, Text.isNumeralChar c = true :=
    fun k c hc => hchars c (List.mem_of_mem_drop hc)
  have hzeros : ∀ k, ∀ c ∈ List.replicate k '0', Text.isNumeralChar c = true :=
    fun k c hc => Text.isNumeralChar_of_isDigit (Text.isDigit_replicate hc)
  have hexponent : ∀ c ∈ Text.decimal layout.exponentDigits exponent.natAbs,
      Text.isNumeralChar c = true :=
    fun c hc => Text.isNumeralChar_of_isDigit (Text.isDigit_decimal _ _ c hc)
  -- Three layouts: zeros in front of the digits, a point among or after them, and an exponent.
  unfold layOut
  split
  · split
    · simp only [List.forall_mem_append, List.forall_mem_cons]
      exact ⟨⟨rfl, rfl, hzeros _⟩, hchars⟩
    · simp only [List.forall_mem_append, List.forall_mem_cons]
      refine ⟨⟨htake _, hzeros _⟩, rfl, ?_⟩
      split
      · simp [Text.isNumeralChar]
      · exact hdrop _
  · simp only [List.forall_mem_append]
    refine ⟨⟨⟨htake _, ?_⟩, ?_⟩, hexponent⟩
    · split
      · simp
      · rw [List.forall_mem_cons]
        exact ⟨rfl, hdrop _⟩
    · split <;> simp [Text.isNumeralChar]

/-- `x.text` is a numeral for a finite double `x`. -/
theorem isNumeralChar_text {x : Double} (hx : x.isFinite = true) :
    ∀ c ∈ x.text.toList, Text.isNumeralChar c = true := by
  have hmagnitude : ∀ units, ∀ c ∈ magnitudeText units, Text.isNumeralChar c = true := by
    intro units
    unfold magnitudeText
    split
    · simp [Text.isNumeralChar]
    · exact isNumeralChar_layOut (fun _ => Text.isDigit_toDigits) _
  cases x with
  | nan => cases hx
  | infinite s => cases hx
  | finite s u hu =>
    rw [text, String.toList_ofList, List.forall_mem_append]
    refine ⟨?_, hmagnitude u⟩
    cases s <;> simp [Text.isNumeralChar]

end Double

end ObjectStore
