import Mathlib
import ObjectStore.Number.Double
import ObjectStore.Proofs.Number.Rounding
import ObjectStore.Proofs.Number.WholeRange

/-! # Bounds of rounded results

Rounding does not lead past a magnitude: a fraction of units that is not below a magnitude does not
round to less than it, and one that is not above it does not round to more. So a result stays in the
range if it is bounded by a magnitude, and it leaves the range from the first power of two beyond it
on. What is at most half a unit rounds to zero.

* `le_roundUnits`, `roundUnits_le`: rounding and a magnitude below or above the fraction.
* `exists_rounded_eq_finite`, `rounded_eq_infinite`, `rounded_eq_zeroOf`: the kinds of results.
* `exists_sqrt_eq_finite`: the bound of a square root. -/

namespace ObjectStore.Double

variable {num den m n : Nat}

/-! ## Magnitudes on one side of a fraction -/

/-- `num / den / spacing (num / den) * spacing (num / den) ≤ roundUnits num den`: rounding gives no
less than the last double at or below the fraction's whole part. -/
theorem floor_le_roundUnits (num den : Nat) :
    num / den / spacing (num / den) * spacing (num / den) ≤ roundUnits num den := by
  rw [roundUnits, Nat.div_div_eq_div_mul]
  exact Nat.mul_le_mul_right _ (div_le_nearest _ _)

/-- `roundUnits num den` is no more than the double after that one. -/
theorem roundUnits_le_ceil (num den : Nat) :
    roundUnits num den ≤ (num / den / spacing (num / den) + 1) * spacing (num / den) := by
  rw [roundUnits, Nat.div_div_eq_div_mul]
  exact Nat.mul_le_mul_right _ (nearest_le _ _)

/-- `m ≤ n / spacing n * spacing n`: the greatest multiple of the spacing below a number is not
below any magnitude that the number is not below: a magnitude with another spacing is below all
numbers with this one. -/
theorem le_floor_spacing (hm : spacing m ∣ m) (h : m ≤ n) : m ≤ n / spacing n * spacing n := by
  by_cases hdvd : spacing n ∣ m
  · obtain ⟨k, rfl⟩ := hdvd
    rw [Nat.mul_comm (spacing n) k] at h ⊢
    exact Nat.mul_le_mul_right _ ((Nat.le_div_iff_mul_le (spacing_pos n)).2 h)
  · -- The spacings differ, so the magnitude has fewer binary digits than the number.
    have hn : 2 ^ 52 ≤ n := by
      by_contra hlt
      rw [spacing_eq_one (by omega)] at hdvd
      exact hdvd (Nat.one_dvd m)
    have hbelow : m < spacing n * 2 ^ 52 := by
      by_contra hle
      have hsame := spacing_eq (Nat.not_lt.1 hle) (h.trans_lt (lt_spacing_mul n))
      exact hdvd (hsame ▸ hm)
    calc m ≤ 2 ^ 52 * spacing n := by rw [Nat.mul_comm]; exact hbelow.le
      _ ≤ n / spacing n * spacing n := by
        refine Nat.mul_le_mul_right _ ((Nat.le_div_iff_mul_le (spacing_pos n)).2 ?_)
        rw [Nat.mul_comm]
        exact (spacing_bounds hn).1

/-- `m ≤ roundUnits num den`: A fraction does not round to less than a magnitude that it is not
below. -/
theorem le_roundUnits (hm : spacing m ∣ m) (hden : 0 < den) (h : m * den ≤ num) :
    m ≤ roundUnits num den :=
  (le_floor_spacing hm ((Nat.le_div_iff_mul_le hden).2 h)).trans (floor_le_roundUnits num den)

/-- `roundUnits (m * den) den = m` for a magnitude `m`. -/
theorem roundUnits_mul_self (hm : spacing m ∣ m) (hden : 0 < den) :
    roundUnits (m * den) den = m := by
  have hpos : 0 < den * spacing m := Nat.mul_pos hden (spacing_pos m)
  apply roundUnits_eq <;> rw [Nat.mul_div_cancel m hden]
  · exact hm
  · omega
  · omega

/-- `roundUnits num den ≤ m`: A fraction does not round to more than a magnitude that it is not
above. -/
theorem roundUnits_le (hm : spacing m ∣ m) (hden : 0 < den) (h : num ≤ m * den) :
    roundUnits num den ≤ m := by
  rcases h.eq_or_lt with rfl | hlt
  · exact (roundUnits_mul_self hm hden).le
  · have hq : num / den < m := (Nat.div_lt_iff_lt_mul hden).2 hlt
    obtain ⟨k, hk⟩ := (spacing_dvd_spacing hq.le).trans hm
    refine (roundUnits_le_ceil num den).trans ?_
    rw [hk, Nat.mul_comm _ k]
    refine Nat.mul_le_mul_right _ (Nat.div_lt_of_lt_mul ?_)
    rwa [← hk]

/-- `roundUnits num den = 0`: at most half a unit rounds to zero. -/
theorem roundUnits_eq_zero (h : 2 * num ≤ den) : roundUnits num den = 0 := by
  by_cases h0 : num = 0
  · rw [h0, roundUnits, nearest]
    simp
  · have hq : num / den = 0 := Nat.div_eq_of_lt (by omega)
    have hmod : num % den = num := Nat.mod_eq_of_lt (by omega)
    have hone : spacing 0 = 1 := spacing_eq_one (by decide)
    rw [roundUnits, hq, hone, Nat.mul_one, Nat.mul_one, nearest, hq, hmod, if_neg]
    simp [Nat.not_lt.2 h]

/-! ## Results in the range and beyond it -/

/-- `spacing bound ∣ bound`. -/
theorem spacing_dvd_bound : spacing bound ∣ bound := by decide +kernel

/-- What is at most a magnitude is rounded to a finite double. -/
theorem exists_rounded_eq_finite (hm : IsMagnitude m) (hden : 0 < den) (h : num ≤ m * den)
    (s : Bool) : ∃ hu, rounded s num den = finite s (roundUnits num den) hu := by
  have hlt : roundUnits num den < bound := (roundUnits_le hm.2 hden h).trans_lt hm.1
  rw [rounded, ofUnits, dif_pos hlt]
  exact ⟨_, rfl⟩

/-- What is at least `bound` is rounded to an infinity. -/
theorem rounded_eq_infinite (hden : 0 < den) (h : bound * den ≤ num) (s : Bool) :
    rounded s num den = infinite s := by
  rw [rounded, ofUnits, dif_neg (Nat.not_lt.2 (le_roundUnits spacing_dvd_bound hden h))]

/-- `rounded s num den = zeroOf s`: half a unit and what is below it are rounded to zero. -/
theorem rounded_eq_zeroOf (h : 2 * num ≤ den) (s : Bool) : rounded s num den = zeroOf s := by
  have hzero := roundUnits_eq_zero h
  rw [rounded, ofUnits, dif_pos (hzero ▸ bound_pos), zeroOf]
  congr 1

/-! ## Square roots -/

/-- The square of `rootBits n bits root` is at most `n`, if that of `root` is. -/
theorem rootBits_mul_self_le {bits root : Nat} (h : root * root ≤ n) :
    rootBits n bits root * rootBits n bits root ≤ n := by
  induction bits generalizing root with
  | zero => exact h
  | succ bits ih =>
    rw [rootBits]
    refine ih ?_
    split
    · next hnext => exact hnext
    · exact h

/-- `floorSqrt n * floorSqrt n ≤ n`. -/
theorem floorSqrt_mul_self_le (n : Nat) : floorSqrt n * floorSqrt n ≤ n :=
  rootBits_mul_self_le (Nat.zero_le n)

/-- `(finite false u hu).sqrt` is rounded once, from the whole part of the root in units. -/
theorem sqrt_finite {u : Nat} {hu : IsMagnitude u} (h0 : u ≠ 0) :
    (finite false u hu).sqrt =
      rounded false (2 * floorSqrt (u * one) +
        (if floorSqrt (u * one) * floorSqrt (u * one) = u * one then 0 else 1)) 2 := by
  rw [sqrt, if_neg h0, if_neg Bool.false_ne_true]

/-- `(finite false u hu).sqrt`: the root of a double that is above zero is not above a magnitude
whose square is above the double. -/
theorem exists_sqrt_eq_finite {u : Nat} {hu : IsMagnitude u} (h0 : u ≠ 0) (hm : IsMagnitude m)
    (h : u * one < m * m) :
    ∃ r hr, (finite false u hu).sqrt = finite false r hr ∧ r ≤ m := by
  have hroot : floorSqrt (u * one) < m :=
    Nat.mul_self_lt_mul_self_iff.1 ((floorSqrt_mul_self_le _).trans_lt h)
  have htwice : 2 * floorSqrt (u * one) +
      (if floorSqrt (u * one) * floorSqrt (u * one) = u * one then 0 else 1) ≤ m * 2 := by
    split <;> omega
  obtain ⟨hr, hrounded⟩ := exists_rounded_eq_finite hm (by decide) htwice false
  refine ⟨_, hr, ?_, roundUnits_le hm.2 (by decide) htwice⟩
  rw [sqrt_finite h0, hrounded]

end ObjectStore.Double
