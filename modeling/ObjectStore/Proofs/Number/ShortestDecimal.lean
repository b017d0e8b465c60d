import Mathlib
import ObjectStore.Number.Shortest
import ObjectStore.Proofs.Number.Rounding

/-! # Shortest decimals read back

The decimal that is chosen for a magnitude reads back as that magnitude. The search looks at grids
with one to seventeen significant digits, and on the last of these one of the two decimals next to
the magnitude reads back: seventeen digits give a grid that is at most `10 ^ -16` of the magnitude
wide, if the number of digits before the point is not estimated too high.

* `ratio_decimalRatio`: the fraction of units of a decimal.
* `pow_decimalLength_le`: the estimate of the decimal length is not too high.
* `readsBack_shortest`: the shortest decimal of a magnitude reads back as it. -/

namespace ObjectStore.Double

/-! ## Decimals as fractions of units -/

/-- `0 < (decimalRatio digits exponent).2`: the denominator of a decimal is positive. -/
theorem decimalRatio_den_pos (digits : Nat) (exponent : Int) :
    0 < (decimalRatio digits exponent).2 := by
  unfold decimalRatio
  split
  · exact Nat.one_pos
  · exact Nat.pow_pos (by decide)

/-- The value of `decimalRatio digits exponent`, in units, is `digits * 10 ^ exponent`. -/
theorem ratio_decimalRatio (digits : Nat) (exponent : Int) :
    ((decimalRatio digits exponent).1 : ℚ) / (decimalRatio digits exponent).2 =
      digits * (10 : ℚ) ^ exponent * one := by
  unfold decimalRatio
  split
  · next h =>
    obtain ⟨n, rfl⟩ := Int.eq_ofNat_of_zero_le h
    simp
  · next h =>
    obtain ⟨n, hn⟩ : ∃ n : Nat, exponent = -n := ⟨(-exponent).toNat, by omega⟩
    subst hn
    have hcast : ((Nat.pow 10 n : Nat) : ℚ) = 10 ^ n := by
      show ((10 ^ n : Nat) : ℚ) = 10 ^ n
      push_cast
      rfl
    simp only [neg_neg, Int.toNat_natCast, hcast, zpow_neg, zpow_natCast, Nat.cast_mul]
    ring

/-- `decimalRatio digits exponent` is the fraction of the power of ten, `digits` times. -/
theorem decimalRatio_eq (digits : Nat) (exponent : Int) :
    decimalRatio digits exponent =
      (digits * (decimalRatio 1 exponent).1, (decimalRatio 1 exponent).2) := by
  unfold decimalRatio
  split
  · rw [Nat.one_mul, Nat.mul_assoc]
  · rw [Nat.one_mul]

/-- `0 < (decimalRatio 1 exponent).1`: the numerator of a power of ten is positive. -/
theorem decimalRatio_one_pos (exponent : Int) : 0 < (decimalRatio 1 exponent).1 := by
  unfold decimalRatio
  split
  · rw [Nat.one_mul]
    exact Nat.mul_pos (Nat.pow_pos (by decide)) one_pos
  · rw [Nat.one_mul]
    exact one_pos

/-- `decimalFloor units exponent` as one quotient, whatever the sign of the exponent. -/
theorem decimalFloor_eq (units : Nat) (exponent : Int) :
    decimalFloor units exponent =
      units * (decimalRatio 1 exponent).2 / (decimalRatio 1 exponent).1 := by
  unfold decimalFloor decimalRatio
  split
  · rw [Nat.mul_one, Nat.one_mul, Nat.mul_comm]
  · rw [Nat.one_mul]

/-- `readsBack units digits exponent`: the decimal is rounded to `units`. -/
theorem readsBack_iff (units digits : Nat) (exponent : Int) :
    readsBack units digits exponent = true ↔
      roundUnits (digits * (decimalRatio 1 exponent).1) (decimalRatio 1 exponent).2 = units := by
  rw [readsBack, decimalRatio_eq, beq_iff_eq]

/-- `readsBack units digits exponent = readsBack units digits' exponent'`: decimals of one value
read back as the same magnitudes. -/
theorem readsBack_congr {units digits digits' : Nat} {exponent exponent' : Int}
    (h : (digits : ℚ) * 10 ^ exponent = digits' * 10 ^ exponent') :
    readsBack units digits exponent = readsBack units digits' exponent' := by
  have hratio : ((decimalRatio digits exponent).1 : ℚ) / (decimalRatio digits exponent).2 =
      (decimalRatio digits' exponent').1 / (decimalRatio digits' exponent').2 := by
    rw [ratio_decimalRatio, ratio_decimalRatio, h]
  have hpos := decimalRatio_den_pos digits exponent
  have hpos' := decimalRatio_den_pos digits' exponent'
  rw [div_eq_div_iff (by positivity) (by positivity)] at hratio
  have hround : roundUnits (decimalRatio digits exponent).1 (decimalRatio digits exponent).2 =
      roundUnits (decimalRatio digits' exponent').1 (decimalRatio digits' exponent').2 :=
    roundUnits_congr hpos hpos' (by exact_mod_cast hratio)
  rw [readsBack, readsBack]
  exact congrArg (· == units) hround

/-- `readsBack units digits exponent` for one magnitude only. -/
theorem eq_of_readsBack {units units' digits : Nat} {exponent : Int}
    (h : readsBack units digits exponent = true) (h' : readsBack units' digits exponent = true) :
    units = units' := by
  rw [readsBack_iff] at h h'
  exact h.symm.trans h'

/-! ## Grids -/

/-- `readsBack units digits exponent = true`: the decimal that is found on a grid reads back. -/
theorem readsBack_of_decimalOn? {units digits : Nat} {exponent : Int}
    (h : decimalOn? units exponent = some digits) : readsBack units digits exponent = true := by
  unfold decimalOn? at h
  dsimp only at h
  split at h
  · next hlow hhigh =>
    cases h
    split
    exacts [hlow, hhigh]
  · next hlow _ =>
    cases h
    exact hlow
  · next _ hhigh =>
    cases h
    exact hhigh
  · cases h

/-- A grid of at most `10 ^ -16` of a magnitude holds a decimal for it. -/
theorem exists_decimalOn? {units : Nat} (hunits : spacing units ∣ units) {exponent : Int}
    (hstep : (decimalRatio 1 exponent).1 * 10 ^ 16 ≤ units * (decimalRatio 1 exponent).2) :
    ∃ digits, decimalOn? units exponent = some digits := by
  have hgrid := roundUnits_grid hunits (decimalRatio_den_pos 1 exponent)
    (decimalRatio_one_pos exponent) hstep
  rw [← decimalFloor_eq, ← readsBack_iff, ← readsBack_iff] at hgrid
  unfold decimalOn?
  dsimp only
  split
  · exact ⟨_, rfl⟩
  · exact ⟨_, rfl⟩
  · exact ⟨_, rfl⟩
  · next hlow hhigh =>
    rw [hlow, hhigh] at hgrid
    simp at hgrid

/-- `shortestFrom` takes the decimal of the first grid, or goes on to the next. -/
theorem shortestFrom_succ (units : Nat) (length : Int) (fuel count : Nat) :
    shortestFrom units length (fuel + 1) count =
      match decimalOn? units (length - count) with
      | some digits => (digits, length - count)
      | none => shortestFrom units length fuel (count + 1) := by
  rfl

/-- `shortestFrom`: if one of the grids of a search holds a decimal, what the search finds reads
back. -/
theorem readsBack_shortestFrom {units : Nat} {length : Int} {fuel count : Nat}
    (h : ∃ i < fuel, ∃ digits, decimalOn? units (length - (count + i : Nat)) = some digits) :
    readsBack units (shortestFrom units length fuel count).1
      (shortestFrom units length fuel count).2 = true := by
  induction fuel generalizing count with
  | zero =>
    obtain ⟨i, hi, -⟩ := h
    exact absurd hi (Nat.not_lt_zero _)
  | succ fuel ih =>
    rw [shortestFrom_succ]
    rcases hon : decimalOn? units (length - count) with _ | digits
    · -- nothing on this grid, so the one that holds a decimal comes later
      obtain ⟨i, hi, digits, hdigits⟩ := h
      cases i with
      | zero =>
        rw [Nat.add_zero, hon] at hdigits
        cases hdigits
      | succ i =>
        refine ih ⟨i, Nat.lt_of_succ_lt_succ hi, digits, ?_⟩
        rwa [Nat.add_right_comm]
    · exact readsBack_of_decimalOn? hon

/-! ## The decimal length -/

/-- `bound` is a power of two that is not beyond `2 ^ 2098`. -/
theorem exists_bound_eq : ∃ k ≤ 2098, bound = 2 ^ k := ⟨2098, le_rfl, by decide +kernel⟩

/-- `units.log2 < 2098` for a positive magnitude. -/
theorem log2_lt_of_isMagnitude {units : Nat} (h : IsMagnitude units) (h0 : units ≠ 0) :
    units.log2 < 2098 := by
  obtain ⟨k, hk, hbound⟩ := exists_bound_eq
  refine Nat.lt_of_lt_of_le ((Nat.log2_lt h0).2 ?_) hk
  rw [← hbound]
  exact h.1

/-- The estimate of the length from the logarithm to base two is at most one too high, whatever the
logarithm of a double is. -/
theorem decimalRatio_estimate_le : ∀ l : Nat, l < 2098 →
    (decimalRatio 1 (((l : Int) - 1074) * 30103 / 100000 - 1)).1 ≤
      2 ^ l * (decimalRatio 1 (((l : Int) - 1074) * 30103 / 100000 - 1)).2 := by
  decide +kernel

/-- `(10 : ℚ) ^ exponent * one ≤ units`: A power of ten is not more than a magnitude if its fraction
of units is not. -/
theorem pow_le_iff {units : Nat} {exponent : Int} :
    (10 : ℚ) ^ exponent * one ≤ units ↔
      (decimalRatio 1 exponent).1 ≤ units * (decimalRatio 1 exponent).2 := by
  have hpos : (0 : ℚ) < (decimalRatio 1 exponent).2 := by
    exact_mod_cast decimalRatio_den_pos 1 exponent
  have hratio := ratio_decimalRatio 1 exponent
  rw [Nat.cast_one, one_mul] at hratio
  rw [← hratio, div_le_iff₀ hpos]
  exact_mod_cast Iff.rfl

/-- `10 ^ exponent` is at most a magnitude if some of its steps are below it. -/
theorem pow_le_of_decimalFloor {units : Nat} {exponent : Int}
    (h : decimalFloor units exponent ≠ 0) : (10 : ℚ) ^ exponent * one ≤ units := by
  rw [pow_le_iff]
  by_contra hlt
  rw [decimalFloor_eq] at h
  exact h (Nat.div_eq_of_lt (Nat.lt_of_not_le hlt))

/-- `(10 : ℚ) ^ (decimalLength units - 1) * one ≤ units`: the power of ten one below the length of a
magnitude is not more than it. -/
theorem pow_decimalLength_le {units : Nat} (h : IsMagnitude units) (h0 : units ≠ 0) :
    (10 : ℚ) ^ (decimalLength units - 1) * one ≤ units := by
  unfold decimalLength
  dsimp only
  split
  · -- the estimate exceeds the magnitude, and one below it does not
    have hle := (decimalRatio_estimate_le units.log2 (log2_lt_of_isMagnitude h h0)).trans
      (Nat.mul_le_mul_right _ (Nat.log2_self_le h0))
    exact pow_le_iff.2 hle
  · next h1 =>
    have hfloor : decimalFloor units (((units.log2 : Int) - 1074) * 30103 / 100000) ≠ 0 := by
      simpa using h1
    split
    · rw [Int.add_sub_cancel]
      exact pow_le_of_decimalFloor hfloor
    · next h2 =>
      have hnext : decimalFloor units (((units.log2 : Int) - 1074) * 30103 / 100000 + 1) ≠ 0 := by
        simpa using h2
      have hexp : ((units.log2 : Int) - 1074) * 30103 / 100000 + 2 - 1 =
          ((units.log2 : Int) - 1074) * 30103 / 100000 + 1 := by omega
      rw [hexp]
      exact pow_le_of_decimalFloor hnext

/-! ## The shortest decimal -/

/-- `shortest units`, the shortest decimal of a magnitude, reads back as it. -/
theorem readsBack_shortest {units : Nat} (h : IsMagnitude units) (h0 : units ≠ 0) :
    readsBack units (shortest units).1 (shortest units).2 = true := by
  have hlength := pow_decimalLength_le h h0
  have hstep : (decimalRatio 1 (decimalLength units - 17)).1 * 10 ^ 16 ≤
      units * (decimalRatio 1 (decimalLength units - 17)).2 := by
    have hexp : decimalLength units - 1 = (decimalLength units - 17) + (16 : Nat) := by omega
    have hpos : (0 : ℚ) < (decimalRatio 1 (decimalLength units - 17)).2 := by
      exact_mod_cast decimalRatio_den_pos 1 _
    have hratio := ratio_decimalRatio 1 (decimalLength units - 17)
    rw [Nat.cast_one, one_mul] at hratio
    rw [hexp, zpow_add₀ (by norm_num), mul_right_comm, ← hratio, zpow_natCast, div_mul_eq_mul_div,
      div_le_iff₀ hpos] at hlength
    exact_mod_cast hlength
  obtain ⟨digits, hdigits⟩ := exists_decimalOn? h.2 hstep
  exact readsBack_shortestFrom ⟨16, by decide, digits, hdigits⟩

end ObjectStore.Double
