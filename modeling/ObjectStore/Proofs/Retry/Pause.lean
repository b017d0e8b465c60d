import Mathlib
import ObjectStore.Retry.Run

/-! # Pauses of policies in doubles

The pauses of a policy whose two delays are finite doubles that were accepted: each is there, they
never get shorter from one retry to the next, and none is longer than the greatest delay. Doubling
a double is exact unless it leaves the range, and what leaves the range is cut to the greatest
delay like any other pause that is too long. -/

namespace ObjectStore

/-! ## Order of quantities -/

namespace Quantity

/-- `a.le a = true` for every number proper. -/
theorem le_refl {a : Quantity} (ha : a ≠ nan) : a.le a = true := by
  cases a <;> simp_all [le, lt, eq]

/-- `a.le b = true`: of two quantities that are numbers, one is below the other or they are
equal. -/
theorem le_of_not_lt {a b : Quantity} (ha : a ≠ nan) (hb : b ≠ nan) (h : b.lt a = false) :
    a.le b = true := by
  cases a <;> cases b <;> simp_all [le, lt, eq]
  case infinite.infinite s t => cases s <;> cases t <;> simp_all
  case exact.exact m n => omega

/-- `a.lt b` and `b.le c` give `a.lt c`. -/
theorem lt_of_lt_of_le {a b c : Quantity} (hab : a.lt b = true) (hbc : b.le c = true) :
    a.lt c = true := by
  cases a <;> cases b <;> cases c <;> simp_all [le, lt, eq]
  case exact.exact.exact m n k => omega

end Quantity

namespace Number

/-- `a.least b` is not above `b`. -/
theorem least_le {a b : Number} (ha : a.quantity ≠ .nan) (hb : b.quantity ≠ .nan) :
    (a.least b).le b = true := by
  by_cases h : b.lt a = true
  · rw [least, if_pos h]
    exact Quantity.le_refl hb
  · rw [least, if_neg h]
    exact Quantity.le_of_not_lt ha hb (by simpa [lt] using h)

/-- `(a.least m).le (b.least m) = true`: the smaller one of a number and a fixed one grows with the
number. -/
theorem least_le_least {a b m : Number} (ha : a.quantity ≠ .nan) (hm : m.quantity ≠ .nan)
    (hab : a.le b = true) : (a.least m).le (b.least m) = true := by
  by_cases hma : m.lt a = true
  · have hmb : m.lt b = true := Quantity.lt_of_lt_of_le hma hab
    rw [least, least, if_pos hma, if_pos hmb]
    exact Quantity.le_refl hm
  · by_cases hmb : m.lt b = true
    · rw [least, least, if_neg hma, if_pos hmb]
      exact Quantity.le_of_not_lt ha hm (by simpa [lt] using hma)
    · rw [least, least, if_neg hma, if_neg hmb]
      exact hab

end Number

/-! ## Doubling -/

namespace Double

/-- `Quantity.ofDouble ((finite s u h).scale k)`: A finite double that is not below zero, times a
power of two: the exact product, or infinity from the bound on. -/
theorem quantity_scale {s : Bool} {u : Nat} (h : IsMagnitude u) (hs : 0 ≤ signed s u) (k : Nat) :
    Quantity.ofDouble ((finite s u h).scale k) =
      if u * Nat.pow 2 k < bound then .exact (u * Nat.pow 2 k : Nat) else .infinite false := by
  -- a sign is left only to zero
  have hcases : s = false ∨ u = 0 := by
    cases s with
    | false => exact .inl rfl
    | true =>
      right
      simp only [signed, if_true] at hs
      omega
  rw [scale_finite, ofUnits]
  by_cases hb : u * Nat.pow 2 k < bound
  · rw [dif_pos hb, if_pos hb]
    rcases hcases with rfl | rfl <;> simp [Quantity.ofDouble, signed]
  · rw [dif_neg hb, if_neg hb]
    rcases hcases with rfl | rfl
    · rfl
    · rw [Nat.zero_mul] at hb
      exact absurd bound_pos hb

/-- `scale`: doubling more often gives no smaller number. -/
theorem scale_le_scale {s : Bool} {u : Nat} (h : IsMagnitude u) (hs : 0 ≤ signed s u) {i j : Nat}
    (hij : i ≤ j) :
    (Quantity.ofDouble ((finite s u h).scale i)).le
      (Quantity.ofDouble ((finite s u h).scale j)) = true := by
  have hle : u * Nat.pow 2 i ≤ u * Nat.pow 2 j :=
    Nat.mul_le_mul_left _ (Nat.pow_le_pow_right (by decide) hij)
  rw [quantity_scale h hs, quantity_scale h hs]
  -- If the larger product is out of range it is infinite; if the smaller one is, so is the larger.
  split
  · split
    · simp only [Quantity.le, Quantity.lt, Quantity.eq, Bool.or_eq_true, decide_eq_true_eq,
        beq_iff_eq]
      omega
    · rfl
  · rw [if_neg (by omega)]
    rfl

end Double

/-! ## Pauses -/

namespace RetryPolicy

/-- The pause before `retry`, where both delays, `base` and `greatest`, are doubles. -/
def pauseBefore (base greatest : Double) (retry : Nat) : Number :=
  (Number.double (base.scale (min (retry - 1) maxDoublings))).least (.double greatest)

/-- `delay = .ok (pauseBefore base greatest retry)`: A policy in doubles has a pause for every
retry. -/
theorem delay_double (retries : Nat) (base greatest : Double) (retry : Nat) :
    delay ⟨retries, .double base, .double greatest⟩ retry = .ok (pauseBefore base greatest retry) :=
  rfl

/-- `(pauseBefore base greatest retry).fixed places`: such a pause can be written into the log. -/
theorem exists_fixed_pauseBefore (base greatest : Double) (places retry : Nat) :
    ∃ text, (pauseBefore base greatest retry).fixed places = .ok text := by
  rcases Number.least_eq (.double (base.scale (min (retry - 1) maxDoublings)))
    (.double greatest) with h | h <;> rw [pauseBefore, h] <;> exact ⟨_, rfl⟩

/-- `make (.int n) (.double base) (.double greatest) = .ok p`: what is known of delays that were
accepted: the policy holds them as they were given, and neither is below zero. -/
theorem make_double_eq_ok {n : Int} {base greatest : Double} {p : RetryPolicy}
    (h : make (.int n) (.double base) (.double greatest) = .ok p) :
    p = ⟨n.toNat, .double base, .double greatest⟩ ∧
      (Number.double base).lt (.int 0) = false ∧ (Number.double greatest).lt (.int 0) = false := by
  simp only [make, retriesOf, delayOf, Value.number?] at h
  by_cases hn : n < 0
  · rw [if_pos hn] at h
    cases h
  by_cases hb : (Number.double base).lt (.int 0) = true
  · rw [if_neg hn, if_pos hb] at h
    cases h
  by_cases hg : (Number.double greatest).lt (.int 0) = true
  · rw [if_neg hn, if_neg hb, if_pos hg] at h
    cases h
  rw [if_neg hn, if_neg hb, if_neg hg] at h
  cases h
  exact ⟨rfl, by simpa using hb, by simpa using hg⟩

/-- `0 ≤ Double.signed s u`: A finite double that is not below zero has a sign and a magnitude that
say so. -/
theorem exists_signed_nonneg {x : Double} (hx : x.isFinite = true)
    (h : (Number.double x).lt (.int 0) = false) :
    ∃ s u hu, x = .finite s u hu ∧ 0 ≤ Double.signed s u := by
  cases x with
  | nan => cases hx
  | infinite s => cases hx
  | finite s u hu =>
    refine ⟨s, u, hu, rfl, ?_⟩
    have : ¬ Double.signed s u < 0 * (Double.one : Int) := by
      simpa [Number.lt, Number.quantity, Quantity.ofDouble, Quantity.ofInt] using h
    omega

variable {base greatest : Double}

/-- `quantity ≠ .nan`: A finite delay that is doubled is a number, or an infinity. -/
theorem quantity_pause_ne_nan (hb : base.isFinite = true) (k : Nat) :
    (Number.double (base.scale k)).quantity ≠ .nan := by
  cases base with
  | nan => cases hb
  | infinite s => cases hb
  | finite s u h =>
    show Quantity.ofDouble ((Double.finite s u h).scale k) ≠ .nan
    rw [Double.scale_finite, Double.ofUnits]
    split <;> simp [Quantity.ofDouble]

/-- `(Number.double x).quantity ≠ .nan`: A finite double is a number. -/
theorem quantity_double_ne_nan {x : Double} (hx : x.isFinite = true) :
    (Number.double x).quantity ≠ .nan := by
  cases x <;> simp_all [Number.quantity, Quantity.ofDouble]

/-- `(pauseBefore base greatest retry).le (.double greatest)`: no pause is longer than the greatest
delay. -/
theorem pauseBefore_le (hb : base.isFinite = true) (hg : greatest.isFinite = true) (retry : Nat) :
    (pauseBefore base greatest retry).le (.double greatest) = true :=
  Number.least_le (quantity_pause_ne_nan hb _) (quantity_double_ne_nan hg)

/-- `(pauseBefore base greatest i).le (pauseBefore base greatest j)`: no pause is shorter than an
earlier one. -/
theorem pauseBefore_le_pauseBefore (hb : base.isFinite = true)
    (hpos : (Number.double base).lt (.int 0) = false) (hg : greatest.isFinite = true) {i j : Nat}
    (hij : i ≤ j) :
    (pauseBefore base greatest i).le (pauseBefore base greatest j) = true := by
  obtain ⟨s, u, hu, rfl, hs⟩ := exists_signed_nonneg hb hpos
  have hscale := Double.scale_le_scale hu hs
    (i := min (i - 1) maxDoublings) (j := min (j - 1) maxDoublings) (by omega)
  exact Number.least_le_least (quantity_pause_ne_nan hb _) (quantity_double_ne_nan hg) hscale

end RetryPolicy

end ObjectStore
