import Mathlib
import ObjectStore.Number.Double
import ObjectStore.Proofs.Number.Rounding

/-! # Whole numbers in the range of the doubles

A whole number has a double unless it rounds out of the range. Rounding at the end of the range goes
to the power of two beyond it from half a spacing below that power on, the half included, since the
last magnitude in the range has an odd significand.

* `roundUnits_lt_pow_iff`: what rounds to less than a power of two.
* `ofInt?_eq_none_iff`, `ofInt?_natCast`: which whole numbers have a double. -/

namespace ObjectStore.Double

/-- `num / den ≤ nearest num den`: rounding goes down to the whole part at most. -/
theorem div_le_nearest (num den : Nat) : num / den ≤ nearest num den := by
  simp only [nearest]
  split <;> omega

/-- `nearest n (2 * h) < 2 * m ↔ n < 4 * m * h - h`: rounding to even halves stays below an even
number exactly up to a half below it. -/
theorem nearest_lt_iff {n h m : Nat} (hh : 0 < h) :
    nearest n (2 * h) < 2 * m ↔ n < 4 * m * h - h := by
  have hdiv := Nat.div_add_mod n (2 * h)
  have hmod := Nat.mod_lt n (show 2 * h > 0 by omega)
  simp only [nearest]
  generalize n / (2 * h) = q at *
  generalize n % (2 * h) = r at *
  have hprod : 4 * m * h = 2 * h * (2 * m) := by ring
  -- Only the last step below the even number can be rounded up to it.
  rcases Nat.lt_trichotomy (q + 1) (2 * m) with hlt | heq | hgt
  · have hle : 2 * h * (q + 2) ≤ 2 * h * (2 * m) := Nat.mul_le_mul_left _ hlt
    rw [Nat.mul_add] at hle
    have : n < 4 * m * h - h := by omega
    split <;> omega
  · have hlast : 2 * h * (q + 1) = 2 * h * (2 * m) := by rw [heq]
    rw [Nat.mul_add] at hlast
    have hodd : q % 2 = 1 := by omega
    simp only [hodd, beq_self_eq_true, Bool.and_true, Bool.or_eq_true, decide_eq_true_eq,
      beq_iff_eq]
    split <;> omega
  · have hle : 2 * h * (2 * m) ≤ 2 * h * q := Nat.mul_le_mul_left _ (by omega)
    split <;> omega

/-- `roundUnits n 1 < 2 ^ (j + 54) ↔ n < 2 ^ (j + 54) - 2 ^ j`: rounding stays below a power of two
exactly up to half a spacing below it. -/
theorem roundUnits_lt_pow_iff {n j : Nat} :
    roundUnits n 1 < 2 ^ (j + 54) ↔ n < 2 ^ (j + 54) - 2 ^ j := by
  have hround : roundUnits n 1 = nearest n (spacing n) * spacing n := by
    rw [roundUnits, Nat.div_one, Nat.one_mul]
  have hpow : ∀ i, 2 ^ (j + i) = 2 ^ j * 2 ^ i := Nat.pow_add 2 j
  have hpos := Nat.two_pow_pos j
  rw [hround]
  rcases Nat.lt_trichotomy (n.log2) (j + 53) with hlog | hlog | hlog
  · -- below the power of two before it
    have hs : spacing n ≤ 2 ^ j := Nat.pow_le_pow_right (by decide) (by omega)
    have hn : n < 2 ^ (j + 53) := Nat.lt_log2_self.trans_le (Nat.pow_le_pow_right (by decide) hlog)
    have hq : n / spacing n < 2 ^ 53 :=
      Nat.div_lt_of_lt_mul (lt_spacing_mul n)
    have hnearest : nearest n (spacing n) * spacing n ≤ 2 ^ 53 * 2 ^ j :=
      Nat.mul_le_mul ((nearest_le n _).trans hq) hs
    rw [hpow] at hn ⊢
    omega
  · -- between the two
    have hs : spacing n = 2 * 2 ^ j := by
      rw [spacing_eq_pow, hlog, show j + 53 - 52 = j + 1 by omega, Nat.pow_succ, Nat.mul_comm]
    rw [hs, hpow]
    have h := nearest_lt_iff (n := n) hpos (m := 2 ^ 52)
    rw [show 2 ^ j * 2 ^ 54 = 2 * 2 ^ 52 * (2 * 2 ^ j) by ring,
      Nat.mul_lt_mul_right (by omega), h]
    congr! 2
    ring
  · -- from the power on
    have h0 : n ≠ 0 := by
      rintro rfl
      simp at hlog
    have hlow : 2 ^ 52 ≤ n / spacing n := by
      rw [Nat.le_div_iff_mul_le (spacing_pos n), Nat.mul_comm]
      refine (spacing_bounds ?_).1
      exact (Nat.pow_le_pow_right (by decide) (by omega)).trans (Nat.log2_self_le h0)
    have hs : 2 ^ j * 2 ^ 2 ≤ spacing n := by
      rw [← hpow, spacing_eq_pow]
      exact Nat.pow_le_pow_right (by decide) (by omega)
    have hmul : 2 ^ 52 * (2 ^ j * 2 ^ 2) ≤ nearest n (spacing n) * spacing n :=
      Nat.mul_le_mul (hlow.trans (div_le_nearest _ _)) hs
    have hn : 2 ^ (j + 54) ≤ n :=
      (Nat.pow_le_pow_right (by decide) hlog).trans (Nat.log2_self_le h0)
    rw [hpow] at hn ⊢
    omega

/-! ## Whole numbers -/

/-- The first whole number that is too large for a double: half a spacing below the first power of
two beyond the range. -/
@[irreducible] def firstBeyond : Nat := Nat.pow 2 (970 + 54) - Nat.pow 2 970

/-- `one = 2 ^ 1074`. -/
theorem one_eq_pow : one = 2 ^ 1074 := by decide +kernel

/-- `bound = 2 ^ (1074 + 970 + 54)`. -/
theorem bound_eq_pow : bound = 2 ^ (1074 + 970 + 54) := by decide +kernel

/-- `firstBeyond = 2 ^ (970 + 54) - 2 ^ 970`. -/
theorem firstBeyond_eq_sub : firstBeyond = 2 ^ (970 + 54) - 2 ^ 970 := by decide +kernel

/-- `roundUnits (n * unit) 1 < top ↔ n < limit`: rounding at a finer unit: the powers are variables
here, so that nothing computes them. -/
theorem roundUnits_mul_lt_iff {n i j unit top limit : Nat} (hunit : unit = 2 ^ i)
    (htop : top = 2 ^ (i + j + 54)) (hlimit : limit = 2 ^ (j + 54) - 2 ^ j) :
    roundUnits (n * unit) 1 < top ↔ n < limit := by
  have hpow : 2 ^ (i + j + 54) = 2 ^ (j + 54) * 2 ^ i := by
    rw [Nat.add_assoc, Nat.pow_add, Nat.mul_comm]
  have hhalf : 2 ^ (i + j) = 2 ^ j * 2 ^ i := by rw [Nat.pow_add, Nat.mul_comm]
  rw [hunit, htop, hlimit, roundUnits_lt_pow_iff, hpow, hhalf, ← Nat.sub_mul,
    Nat.mul_lt_mul_right (Nat.two_pow_pos i)]

/-- A whole number `n` is rounded into the range exactly if `n < firstBeyond`. -/
theorem roundUnits_mul_one_lt_bound_iff {n : Nat} :
    roundUnits (n * one) 1 < bound ↔ n < firstBeyond :=
  roundUnits_mul_lt_iff one_eq_pow bound_eq_pow firstBeyond_eq_sub

/-- `ofRatio negative n 1` is finite below `firstBeyond`. -/
theorem ofRatio_of_lt (negative : Bool) {n : Nat} (h : n < firstBeyond) :
    ∃ u hu, ofRatio negative n 1 = finite negative u hu := by
  rw [ofRatio, rounded, ofUnits, dif_pos (roundUnits_mul_one_lt_bound_iff.mpr h)]
  exact ⟨_, _, rfl⟩

/-- `ofRatio negative n 1` is infinite from `firstBeyond` on. -/
theorem ofRatio_of_le (negative : Bool) {n : Nat} (h : firstBeyond ≤ n) :
    ofRatio negative n 1 = infinite negative := by
  rw [ofRatio, rounded, ofUnits,
    dif_neg (mt roundUnits_mul_one_lt_bound_iff.mp (Nat.not_lt.mpr h))]

/-- `ofInt? n = none ↔ firstBeyond ≤ n.natAbs`: A whole number has no double exactly if it is too
large, whatever its sign. -/
theorem ofInt?_eq_none_iff {n : Int} : ofInt? n = none ↔ firstBeyond ≤ n.natAbs := by
  constructor
  · intro h
    by_contra hlt
    obtain ⟨u, hu, hn⟩ := ofRatio_of_lt (n < 0) (Nat.lt_of_not_le hlt)
    rw [ofInt?, hn] at h
    cases h
  · intro h
    rw [ofInt?, ofRatio_of_le _ h]
    rfl

/-- `ofInt? n`: a whole number that is not below zero has a double exactly if it is small enough;
the double is not below zero either. -/
theorem ofInt?_natCast (n : Nat) :
    (n < firstBeyond → ∃ u h, ofInt? n = some (finite false u h)) ∧
      (firstBeyond ≤ n → ofInt? n = none) := by
  have hsign : decide ((n : Int) < 0) = false := by simp
  constructor
  · intro h
    obtain ⟨u, hu, hn⟩ := ofRatio_of_lt false h
    refine ⟨u, hu, ?_⟩
    rw [ofInt?, hsign, Int.natAbs_natCast, hn]
    rfl
  · exact fun h => ofInt?_eq_none_iff.2 h

end ObjectStore.Double
