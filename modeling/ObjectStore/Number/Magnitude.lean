/-! # Magnitudes of doubles

Every finite double of 64 bits is a whole number of units of 2^-1074, and only numbers of units
whose digits below the highest 53 bits are zero occur. Rounding takes a fraction of units to the
nearest such number, and of two equally near to the one with the even significand.

* `IsMagnitude units`: that a number of units is the magnitude of a finite double.
* `roundUnits num den`: the magnitude nearest to `num / den` units.
* `spacing_dvd_roundUnits`: what rounding gives has 53 significant bits. -/

namespace ObjectStore.Double

/-- The number of units in one. -/
@[irreducible] def one : Nat := Nat.pow 2 1074

/-- The first magnitude, in units, beyond the finite doubles. -/
@[irreducible] def bound : Nat := Nat.pow 2 2098

/-- The spacing of the doubles next to the magnitude `units`: 53 significant bits, and never less
than one unit. -/
def spacing (units : Nat) : Nat := Nat.pow 2 (units.log2 - 52)

/-- That `units` is the magnitude of a finite double: it is in the range, and its digits below the
highest 53 bits are zero. -/
def IsMagnitude (units : Nat) : Prop := units < bound ∧ spacing units ∣ units

instance (units : Nat) : Decidable (IsMagnitude units) :=
  inferInstanceAs (Decidable (units < bound ∧ spacing units ∣ units))

/-- The quotient `num / den` rounded to the nearest whole number, a half to the even one. -/
def nearest (num den : Nat) : Nat :=
  let q := num / den
  let r := num % den
  if den < 2 * r || (2 * r == den && q % 2 == 1) then q + 1 else q

/-- The magnitude in units nearest to `num / den` units that has 53 significant bits. -/
def roundUnits (num den : Nat) : Nat :=
  let step := spacing (num / den)
  nearest num (den * step) * step

/-- `nearest num den ≤ num / den + 1`: rounding goes up by one at most. -/
theorem nearest_le (num den : Nat) : nearest num den ≤ num / den + 1 := by
  simp only [nearest]
  split <;> omega

/-- `0 < Nat.pow 2 k`. -/
theorem pow_two_pos (k : Nat) : 0 < Nat.pow 2 k := Nat.pow_pos (by decide)

/-- `0 < spacing units`: neighbouring doubles are some units apart. -/
theorem spacing_pos (units : Nat) : 0 < spacing units := pow_two_pos _

/-- `0 < one`. -/
theorem one_pos : 0 < one := by decide +kernel

/-- `0 < bound`. -/
theorem bound_pos : 0 < bound := by decide +kernel

/-- `IsMagnitude 0`: zero is the magnitude of a double. -/
theorem isMagnitude_zero : IsMagnitude 0 := ⟨bound_pos, Nat.dvd_zero _⟩

/-- The spacing next to `n * 2 ^ k` has the exponent of `n` moved by `k`. -/
theorem spacing_mul_pow {n : Nat} (k : Nat) (h : n ≠ 0) :
    spacing (n * Nat.pow 2 k) = Nat.pow 2 (n.log2 + k - 52) := by
  have hlog : ∀ k, (n * Nat.pow 2 k).log2 = n.log2 + k := by
    intro k
    induction k with
    | zero => simp
    | succ k ih =>
      have hk : n * Nat.pow 2 k ≠ 0 := Nat.mul_ne_zero h (Nat.ne_of_gt (pow_two_pos k))
      have double : n * Nat.pow 2 (k + 1) = 2 * (n * Nat.pow 2 k) := by
        show n * (Nat.pow 2 k * 2) = _
        rw [Nat.mul_comm (Nat.pow 2 k), Nat.mul_left_comm]
      rw [double, Nat.log2_two_mul hk, ih, Nat.add_assoc]
  rw [spacing, hlog]

/-- `spacing (units * 2 ^ k) ∣ units * 2 ^ k`: moving a magnitude up by some bits keeps its
significant bits. -/
theorem spacing_dvd_mul_pow {units : Nat} (k : Nat) (h : spacing units ∣ units) :
    spacing (units * Nat.pow 2 k) ∣ units * Nat.pow 2 k := by
  by_cases h0 : units = 0
  · rw [h0, Nat.zero_mul]; exact Nat.dvd_zero _
  · rw [spacing_mul_pow k h0]
    have hle : units.log2 + k - 52 ≤ (units.log2 - 52) + k := by omega
    have hsplit : Nat.pow 2 ((units.log2 - 52) + k) = spacing units * Nat.pow 2 k :=
      Nat.pow_add 2 _ k
    have hdvd : Nat.pow 2 ((units.log2 - 52) + k) ∣ units * Nat.pow 2 k := by
      rw [hsplit]
      exact Nat.mul_dvd_mul_right h _
    exact Nat.dvd_trans (Nat.pow_dvd_pow 2 hle) hdvd

/-- `spacing n ∣ n`: A number of at most 53 bits has 53 significant bits. -/
theorem spacing_dvd_of_le {n : Nat} (h : n ≤ Nat.pow 2 53) : spacing n ∣ n := by
  by_cases hn : n = Nat.pow 2 53
  · rw [hn]; decide
  · have hlog : n.log2 < 53 := by
      by_cases h0 : n = 0
      · rw [h0]; decide
      · exact (Nat.log2_lt h0).2 (Nat.lt_of_le_of_ne h hn)
    have hexp : n.log2 - 52 = 0 := by omega
    rw [spacing, hexp]
    exact Nat.one_dvd n

/-- `spacing (roundUnits num den) ∣ roundUnits num den`: what rounding gives has 53 significant
bits. -/
theorem spacing_dvd_roundUnits (num den : Nat) :
    spacing (roundUnits num den) ∣ roundUnits num den := by
  have hquot : num / (den * spacing (num / den)) < Nat.pow 2 53 := by
    rw [← Nat.div_div_eq_div_mul]
    refine (Nat.div_lt_iff_lt_mul (spacing_pos _)).2 ?_
    have hlt : num / den < Nat.pow 2 ((num / den).log2 + 1) := Nat.lt_log2_self
    refine Nat.lt_of_lt_of_le hlt ?_
    have hsplit : Nat.pow 2 53 * spacing (num / den) = Nat.pow 2 (53 + ((num / den).log2 - 52)) :=
      (Nat.pow_add 2 53 _).symm
    rw [hsplit]
    exact Nat.pow_le_pow_right (by decide) (by omega)
  have hle : nearest num (den * spacing (num / den)) ≤ Nat.pow 2 53 :=
    Nat.le_trans (nearest_le _ _) hquot
  exact spacing_dvd_mul_pow _ (spacing_dvd_of_le hle)

end ObjectStore.Double
