import Mathlib
import ObjectStore.Number.Magnitude

/-! # Rounding of near fractions

A fraction of units rounds to a magnitude if it is nearer to it than half the spacing at the
fraction. Below a power of two the spacing is half of that above it, so the spacing that counts is
that of the fraction and not that of the magnitude. Of the points of a grid that is fine enough, one
of the two around a magnitude rounds to it.

* `roundUnits_eq`: a fraction that is near enough rounds to the magnitude.
* `roundUnits_congr`: rounding depends on the fraction alone, not on its terms.
* `roundUnits_grid`: the grid of a step of at most `10 ^ -16` of a magnitude is fine enough. -/

namespace ObjectStore.Double

/-! ## Spacing -/

/-- `spacing n = 2 ^ (n.log2 - 52)`. -/
theorem spacing_eq_pow (n : Nat) : spacing n = 2 ^ (n.log2 - 52) := rfl

/-- `spacing n = 1` below `2 ^ 53`. -/
theorem spacing_eq_one {n : Nat} (h : n < 2 ^ 53) : spacing n = 1 := by
  have hlog : n.log2 - 52 = 0 := by
    by_cases h0 : n = 0
    · rw [h0]
      rfl
    · have := (Nat.log2_lt h0).2 h
      omega
  rw [spacing_eq_pow, hlog, Nat.pow_zero]

/-- The spacing of a magnitude from `2 ^ 52` on: `2 ^ 52` steps of it are not more than the
magnitude, `2 ^ 53` are. -/
theorem spacing_bounds {n : Nat} (h : 2 ^ 52 ≤ n) :
    spacing n * 2 ^ 52 ≤ n ∧ n < spacing n * 2 ^ 53 := by
  have h0 : n ≠ 0 := by
    rintro rfl
    omega
  have hlog : 52 ≤ n.log2 := (Nat.le_log2 h0).2 h
  have hsplit : ∀ k, spacing n * 2 ^ (52 + k) = 2 ^ (n.log2 + k) := by
    intro k
    rw [spacing_eq_pow, ← Nat.pow_add]
    congr 1
    omega
  constructor
  · rw [hsplit 0]
    exact Nat.log2_self_le h0
  · rw [hsplit 1]
    exact Nat.lt_log2_self

/-- `n < spacing n * 2 ^ 53`. -/
theorem lt_spacing_mul (n : Nat) : n < spacing n * 2 ^ 53 := by
  by_cases h : 2 ^ 52 ≤ n
  · exact (spacing_bounds h).2
  · have := spacing_pos n
    omega

/-- `spacing n = spacing m`: the bounds determine the spacing. -/
theorem spacing_eq {m n : Nat} (hlo : spacing m * 2 ^ 52 ≤ n) (hhi : n < spacing m * 2 ^ 53) :
    spacing n = spacing m := by
  rw [spacing_eq_pow m] at *
  generalize m.log2 - 52 = k at *
  have h0 : n ≠ 0 := by
    have : 0 < 2 ^ k * 2 ^ 52 := by positivity
    omega
  rw [← Nat.pow_add] at hlo hhi
  have hle := (Nat.le_log2 h0).2 hlo
  have hlt := (Nat.log2_lt h0).2 hhi
  have hlog : n.log2 - 52 = k := by omega
  rw [spacing_eq_pow, hlog]

/-- `spacing m ∣ spacing n` if `m ≤ n`. -/
theorem spacing_dvd_spacing {m n : Nat} (h : m ≤ n) : spacing m ∣ spacing n := by
  have hlog : m.log2 ≤ n.log2 := by
    rw [Nat.log2_eq_log_two, Nat.log2_eq_log_two]
    exact Nat.log_mono_right h
  exact Nat.pow_dvd_pow 2 (Nat.sub_le_sub_right hlog 52)

/-! ## Rounding -/

/-- `nearest num den = m` if `num / den` is less than a half from `m`. -/
theorem nearest_eq {num den m : Nat} (hlo : 2 * (m * den) < 2 * num + den)
    (hhi : 2 * num < 2 * (m * den) + den) : nearest num den = m := by
  have hden : 0 < den := by omega
  have hdiv := Nat.div_add_mod num den
  have hmod := Nat.mod_lt num hden
  rw [Nat.mul_comm] at hdiv
  by_cases h : m * den ≤ num
  · -- the fraction is rounded down
    have hq : num / den = m := by
      apply Nat.div_eq_of_lt_le h
      rw [Nat.succ_mul]
      omega
    simp only [nearest, hq]
    rw [hq] at hdiv
    rw [if_neg]
    have hr : ¬ den < 2 * (num % den) := by omega
    have hr' : 2 * (num % den) ≠ den := by omega
    simp [hr, hr']
  · -- the fraction is rounded up
    obtain ⟨k, rfl⟩ : ∃ k, m = k + 1 := Nat.exists_eq_succ_of_ne_zero (by
      rintro rfl
      omega)
    have hsucc : (k + 1) * den = k * den + den := Nat.succ_mul _ _
    rw [hsucc] at h hlo hhi
    have hq : num / den = k := by
      apply Nat.div_eq_of_lt_le
      · omega
      · rw [hsucc]
        omega
    simp only [nearest, hq]
    rw [hq] at hdiv
    rw [if_pos]
    have hr : den < 2 * (num % den) := by omega
    simp [hr]

/-- `roundUnits num den = units`: A fraction rounds to a magnitude that it is nearer to than half
the spacing. -/
theorem roundUnits_eq {num den units : Nat} (hdvd : spacing (num / den) ∣ units)
    (hlo : 2 * (units * den) < 2 * num + den * spacing (num / den))
    (hhi : 2 * num < 2 * (units * den) + den * spacing (num / den)) :
    roundUnits num den = units := by
  obtain ⟨m, hm⟩ := hdvd
  have hunits : units * den = m * (den * spacing (num / den)) := by
    rw [hm, Nat.mul_comm (spacing _), Nat.mul_assoc, Nat.mul_comm (spacing _)]
  rw [hunits] at hlo hhi
  rw [roundUnits, nearest_eq hlo hhi, Nat.mul_comm]
  exact hm.symm

/-- `nearest (num * k) (den * k) = nearest num den`. -/
theorem nearest_mul {num den k : Nat} (hk : 0 < k) :
    nearest (num * k) (den * k) = nearest num den := by
  simp only [nearest, Nat.mul_div_mul_right _ _ hk, Nat.mul_mod_mul_right]
  have hlt : den * k < 2 * (num % den * k) ↔ den < 2 * (num % den) := by
    rw [← Nat.mul_assoc, Nat.mul_lt_mul_right hk]
  have heq : 2 * (num % den * k) = den * k ↔ 2 * (num % den) = den := by
    rw [← Nat.mul_assoc, Nat.mul_left_inj (by omega)]
  simp only [hlt, beq_eq_decide, heq]

/-- `roundUnits (num * k) (den * k) = roundUnits num den`. -/
theorem roundUnits_mul {num den k : Nat} (hk : 0 < k) :
    roundUnits (num * k) (den * k) = roundUnits num den := by
  simp only [roundUnits, Nat.mul_div_mul_right _ _ hk]
  rw [Nat.mul_right_comm, nearest_mul hk]

/-- `roundUnits num den = roundUnits num' den'`: equal fractions round to the same magnitude. -/
theorem roundUnits_congr {num den num' den' : Nat} (hden : 0 < den) (hden' : 0 < den')
    (h : num * den' = num' * den) : roundUnits num den = roundUnits num' den' := by
  rw [← roundUnits_mul hden', h, Nat.mul_comm den, roundUnits_mul hden]

/-! ## Grids -/

/-- `spacing n = spacing units`: up to half a step above a magnitude the spacing is that of the
magnitude. -/
theorem spacing_above {units n : Nat} (hunits : spacing units ∣ units) (hle : units ≤ n)
    (hlt : n < units + spacing units) : spacing n = spacing units := by
  by_cases h : units < 2 ^ 52
  · have hone : spacing units = 1 := spacing_eq_one (by omega)
    have hn : n = units := by omega
    rw [hn]
  · obtain ⟨hlo, hhi⟩ := spacing_bounds (Nat.le_of_not_lt h)
    obtain ⟨m, hm⟩ := hunits
    have hmlt : m < 2 ^ 53 := by
      refine Nat.lt_of_mul_lt_mul_left (a := spacing units) ?_
      rwa [← hm]
    have hnext : units + spacing units ≤ spacing units * 2 ^ 53 := by
      calc units + spacing units = spacing units * (m + 1) := by rw [Nat.mul_succ, ← hm]
        _ ≤ spacing units * 2 ^ 53 := Nat.mul_le_mul_left _ hmlt
    exact spacing_eq (hlo.trans hle) (hlt.trans_le hnext)

/-- `spacing n = spacing units` up to a spacing below the magnitude `units`, unless it is the least
one of its spacing. -/
theorem spacing_below {units n : Nat} (hunits : spacing units ∣ units) (hle : n ≤ units)
    (hlt : units ≤ n + spacing units) :
    spacing n = spacing units ∨ units = spacing units * 2 ^ 52 := by
  by_cases h : units < 2 ^ 52
  · left
    rw [spacing_eq_one (n := n) (by omega), spacing_eq_one (n := units) (by omega)]
  · obtain ⟨hlo, hhi⟩ := spacing_bounds (Nat.le_of_not_lt h)
    by_cases hn : spacing units * 2 ^ 52 ≤ n
    · exact .inl (spacing_eq hn (hle.trans_lt hhi))
    · right
      obtain ⟨m, hm⟩ := hunits
      have hmlt : m < 2 ^ 52 + 1 := by
        refine Nat.lt_of_mul_lt_mul_left (a := spacing units) ?_
        rw [← hm, Nat.mul_add, Nat.mul_one]
        exact hlt.trans_lt (Nat.add_lt_add_right (Nat.lt_of_not_le hn) _)
      have hmle : m ≤ 2 ^ 52 := by omega
      have hunitsle : spacing units * m ≤ spacing units * 2 ^ 52 := Nat.mul_le_mul_left _ hmle
      omega

/-- Of the two points of a grid around a magnitude, one rounds to it, if the grid's step `g / d` is
at most `10 ^ -16` of the magnitude. -/
theorem roundUnits_grid {units g d : Nat} (hunits : spacing units ∣ units) (hd : 0 < d)
    (hg : 0 < g) (hstep : g * 10 ^ 16 ≤ units * d) :
    roundUnits (units * d / g * g) d = units ∨
      roundUnits ((units * d / g + 1) * g) d = units := by
  have hdiv := Nat.div_add_mod (units * d) g
  have hmod := Nat.mod_lt (units * d) hg
  rw [Nat.mul_comm] at hdiv
  have hsucc : (units * d / g + 1) * g = units * d / g * g + g := Nat.succ_mul _ _
  rw [hsucc]
  generalize units * d / g * g = low at hdiv ⊢
  have hlow : low ≤ units * d := by omega
  have hhigh : units * d < low + g := by omega
  have hpos : 0 < spacing units * d := Nat.mul_pos (spacing_pos units) hd
  have hle : low / d ≤ units := Nat.div_le_of_le_mul (by rwa [Nat.mul_comm])
  have hfine : g < spacing units * d := by
    have hmul : units * d < spacing units * 2 ^ 53 * d :=
      Nat.mul_lt_mul_of_pos_right (lt_spacing_mul units) hd
    rw [Nat.mul_right_comm] at hmul
    omega
  -- Below a power of two the spacing is half of that above it, but the grid is fine enough there
  -- too: a power of two is the least magnitude of its spacing, and the step is measured by it.
  have hbelow : spacing (low / d) = spacing units ∨ 2 * g < spacing units * d := by
    have hlt : units ≤ low / d + spacing units := by
      rw [← Nat.sub_le_iff_le_add, Nat.le_div_iff_mul_le hd, Nat.sub_mul]
      omega
    rcases spacing_below hunits hle hlt with hsame | hleast
    · exact .inl hsame
    · right
      rw [hleast, Nat.mul_right_comm] at hstep
      omega
  -- If the lower point is nearer than half the spacing there it rounds to the magnitude, and if not
  -- the upper point is: the step is shorter than the spacing.
  by_cases h : 2 * (units * d) < 2 * low + d * spacing (low / d)
  · left
    have hs : 0 < d * spacing (low / d) := Nat.mul_pos hd (spacing_pos _)
    exact roundUnits_eq ((spacing_dvd_spacing hle).trans hunits) h (by omega)
  · right
    have hnear : 2 * (low + g) < 2 * (units * d) + spacing units * d := by
      rcases hbelow with hsame | hfiner
      · rw [hsame, Nat.mul_comm d] at h
        omega
      · omega
    have habove : spacing ((low + g) / d) = spacing units := by
      apply spacing_above hunits
      · rw [Nat.le_div_iff_mul_le hd]
        omega
      · rw [Nat.div_lt_iff_lt_mul hd, Nat.add_mul]
        omega
    apply roundUnits_eq
    · rw [habove]
      exact hunits
    · rw [habove, Nat.mul_comm d]
      omega
    · rw [habove, Nat.mul_comm d]
      exact hnear

end ObjectStore.Double
