import Mathlib
import ObjectStore.Proofs.Except
import ObjectStore.Proofs.Number.WholeRange
import ObjectStore.Proofs.Retry.Pause

/-! # Pauses of accepted policies

The delays of a policy are numbers of any kind, and the check of a delay is that it is not below
zero. That lets two sorts of delays through that give no pause: a base delay that is a whole number
beyond the doubles cannot be doubled, and not-a-number is not below zero but not above it either.
All other accepted policies have a pause before every retry, between zero and the greatest delay.
Where the delays are finite doubles the pause is the exact minimum of the greatest delay and the
base delay doubled as often as the cap allows.

* `Number.toRat?`: the value of a number as a fraction.
* `RetryPolicy.IsSound`: that no delay is one of the two sorts.
* `RetryPolicy.delayAt_usable`: exactly the sound policies have usable pauses.
* `RetryPolicy.delayAt_follows_formula`: the pauses in doubles, and when the cap shows. -/

namespace ObjectStore

/-! ## Numbers that are not below zero -/

/-- `le (exact a) (exact b) = decide (a ≤ b)`. -/
theorem Quantity.le_exact (a b : Int) : le (exact a) (exact b) = decide (a ≤ b) := by
  rw [Bool.eq_iff_iff]
  simp [le, Int.le_iff_lt_or_eq]

namespace Number

/-- `x.quantity = .nan`: among the numbers only `nan` is none. -/
theorem quantity_eq_nan_iff {x : Number} : x.quantity = .nan ↔ x = .double .nan := by
  cases x with
  | bool b => simp [quantity, Quantity.ofInt]
  | int n => simp [quantity, Quantity.ofInt]
  | double y => cases y <;> simp [quantity, Quantity.ofDouble]

/-- `(Number.int 0).le x = true`: what is a number and not below zero is at least zero. -/
theorem zero_le_of_not_lt {x : Number} (hx : x ≠ .double .nan) (h : x.lt (.int 0) = false) :
    (Number.int 0).le x = true :=
  Quantity.le_of_not_lt (by simp [quantity, Quantity.ofInt]) (mt quantity_eq_nan_iff.mp hx) h

/-- `(Number.int m).lt (.int n) = true ↔ m < n`. -/
theorem lt_int_iff {m n : Int} : (Number.int m).lt (.int n) = true ↔ m < n := by
  simp only [lt, quantity, Quantity.ofInt, Quantity.lt_exact, decide_eq_true_eq]
  exact Int.mul_lt_mul_right (by exact_mod_cast Double.one_pos)

/-- `(Number.int m).le (.int n) = true ↔ m ≤ n`. -/
theorem le_int_iff {m n : Int} : (Number.int m).le (.int n) = true ↔ m ≤ n := by
  simp only [le, quantity, Quantity.ofInt, Quantity.le_exact, decide_eq_true_eq]
  exact Int.mul_le_mul_right (by exact_mod_cast Double.one_pos)

/-- A finite double is at least zero if its signed number of units is. -/
theorem zero_le_finite_iff {s : Bool} {u : Nat} {h : Double.IsMagnitude u} :
    (Number.int 0).le (.double (.finite s u h)) = true ↔ 0 ≤ Double.signed s u := by
  simp only [le, quantity, Quantity.ofInt, Quantity.ofDouble, Quantity.le_exact, zero_mul,
    decide_eq_true_eq]

/-- `(Number.int 0).le (.double (x.scale k)) = true`: doubling does not lead below zero. -/
theorem zero_le_scale {x : Double} (h : (Number.int 0).le (.double x) = true) (k : Nat) :
    (Number.int 0).le (.double (x.scale k)) = true := by
  cases x with
  | nan => exact h
  | infinite s => exact h
  | finite s u hu =>
    have hq := Double.quantity_scale hu (zero_le_finite_iff.mp h) k
    rw [le, quantity, quantity, hq, Quantity.ofInt, zero_mul]
    split
    · simp [Quantity.le_exact]
    · rfl

/-- `x.toDouble?`: a number that is not below zero has a double, and one that is not below zero,
unless it is a whole number beyond the range. -/
theorem toDouble?_cases {x : Number} (h : (Number.int 0).le x = true) :
    (∃ y, x.toDouble? = some y ∧ (Number.int 0).le (.double y) = true) ∧
        (∀ n, x = .int n → n < Double.firstBeyond) ∨
      x.toDouble? = none ∧ ∃ n, x = .int n ∧ (Double.firstBeyond : Int) ≤ n := by
  have hfinite : ∀ n : Nat, n < Double.firstBeyond →
      ∃ y, Double.ofInt? n = some y ∧ (Number.int 0).le (.double y) = true := by
    intro n hn
    obtain ⟨u, hu, hy⟩ := (Double.ofInt?_natCast n).1 hn
    exact ⟨_, hy, zero_le_finite_iff.mpr (by simp [Double.signed])⟩
  cases x with
  | bool b =>
    -- A truth value is zero or one.
    have hone : 1 < Double.firstBeyond := by decide +kernel
    refine .inl ⟨?_, by simp⟩
    cases b with
    | false => exact hfinite 0 (by omega)
    | true => exact hfinite 1 hone
  | int n =>
    obtain ⟨m, rfl⟩ := Int.eq_ofNat_of_zero_le (le_int_iff.mp h)
    -- The only numbers without a double are whole ones beyond the range.
    by_cases hm : m < Double.firstBeyond
    · refine .inl ⟨hfinite m hm, fun n hn => ?_⟩
      cases hn
      exact_mod_cast hm
    · exact .inr ⟨(Double.ofInt?_natCast m).2 (Nat.not_lt.mp hm), m, rfl,
        by exact_mod_cast Nat.not_lt.mp hm⟩
  | double y => exact .inl ⟨⟨y, rfl, h⟩, by simp⟩

/-- `x.quantity ≠ .nan`: what is at least zero is a number. -/
theorem ne_nan_of_zero_le {x : Number} (h : (Number.int 0).le x = true) : x.quantity ≠ .nan := by
  rintro hx
  rw [le, hx] at h
  cases h

end Number

/-! ## Usable pauses -/

namespace RetryPolicy

variable {p : RetryPolicy}

/-- `x.lt (.int 0) = false`: A delay that was accepted is not below zero. -/
theorem not_below_of_delayOf {objection : Number → Invalid} {v : Value} {x : Number}
    (h : delayOf objection v = .ok x) : x.lt (.int 0) = false := by
  unfold delayOf at h
  split at h
  · cases h
  · split at h
    · cases h
    · next hx =>
      cases h
      simpa using hx

/-- Neither delay of an accepted policy is below zero. -/
theorem not_below_of_make {maxRetries baseDelay maxDelay : Value}
    (h : make maxRetries baseDelay maxDelay = .ok p) :
    p.baseDelay.lt (.int 0) = false ∧ p.maxDelay.lt (.int 0) = false := by
  obtain ⟨retries, -, h⟩ := bind_eq_ok h
  obtain ⟨base, hbase, h⟩ := bind_eq_ok h
  obtain ⟨greatest, hgreatest, h⟩ := bind_eq_ok h
  cases h
  exact ⟨not_below_of_delayOf hbase, not_below_of_delayOf hgreatest⟩

/-- `make (.int retries) (.ofNumber base) (.ofNumber greatest)`: delays that are not below zero are
accepted. -/
theorem make_ofNumber (retries : Nat) (base greatest : Number)
    (hbase : base.lt (.int 0) = false) (hgreatest : greatest.lt (.int 0) = false) :
    make (.int retries) (.ofNumber base) (.ofNumber greatest) =
      .ok ⟨retries, base, greatest⟩ := by
  have hretries : ¬ (retries : Int) < 0 := by omega
  simp only [make, retriesOf, delayOf, Value.number?_ofNumber, hbase, hgreatest, if_neg hretries,
    Int.toNat_natCast]
  rfl

/-- `p.delayAt (.int n) = p.delay n.toNat` for a retry `n` counted from one. -/
theorem delayAt_int (p : RetryPolicy) {n : Int} (hn : 1 ≤ n) :
    p.delayAt (.int n) = p.delay n.toNat := by
  have : ¬ (Number.int n).lt (.int 1) = true := by
    rw [Number.lt_int_iff]
    omega
  rw [delayAt, Value.number?]
  simp only [if_neg this]

/-- The delay `p.delay retry` is the base delay, doubled `min (retry - 1) maxDoublings` times, and
at most the greatest one. -/
theorem delay_of_toDouble? {x : Double} (h : p.baseDelay.toDouble? = some x) (retry : Nat) :
    p.delay retry =
      .ok ((Number.double (x.scale (min (retry - 1) maxDoublings))).least p.maxDelay) := by
  rw [delay, doubled, h]
  rfl

/-- `p.delay retry = .error .overflow`: there is no delay if the base delay is beyond the
doubles. -/
theorem delay_of_toDouble?_none (h : p.baseDelay.toDouble? = none) (retry : Nat) :
    p.delay retry = .error .overflow := by
  rw [delay, doubled, h]
  rfl

/-- That the pause `d` can be waited: it is not below zero and not above the greatest delay of
`p`. -/
def IsUsable (p : RetryPolicy) (d : Number) : Prop :=
  (Number.int 0).le d = true ∧ d.le p.maxDelay = true

/-- Both delays of `p` are numbers proper, and the base delay is in the range of the doubles. -/
structure IsSound (p : RetryPolicy) : Prop where
  inRange : ∀ n, p.baseDelay = .int n → n < Double.firstBeyond
  base : p.baseDelay ≠ .double .nan
  greatest : p.maxDelay ≠ .double .nan

/-- `p.delay retry = .ok d`: A sound policy has a usable pause before every retry. -/
theorem IsSound.exists_usable (hp : p.IsSound) (hbase : p.baseDelay.lt (.int 0) = false)
    (hgreatest : p.maxDelay.lt (.int 0) = false) (retry : Nat) :
    ∃ d, p.delay retry = .ok d ∧ p.IsUsable d := by
  have hbase := Number.zero_le_of_not_lt hp.base hbase
  have hgreatest := Number.zero_le_of_not_lt hp.greatest hgreatest
  rcases Number.toDouble?_cases hbase with ⟨⟨x, hx, hx0⟩, -⟩ | ⟨-, n, hn, hbeyond⟩
  · have hpause := Number.zero_le_scale hx0 (min (retry - 1) maxDoublings)
    refine ⟨_, delay_of_toDouble? hx retry, ?_, ?_⟩
    · rcases Number.least_eq (.double (x.scale (min (retry - 1) maxDoublings))) p.maxDelay
        with h | h <;> rw [h]
      · exact hpause
      · exact hgreatest
    · exact Number.least_le (Number.ne_nan_of_zero_le hpause) (Number.ne_nan_of_zero_le hgreatest)
  · exact absurd (hp.inRange n hn) (Int.not_lt.mpr hbeyond)

/-- `p.IsSound`: A policy is sound if one of its pauses is usable. -/
theorem IsSound.of_usable (hbase : p.baseDelay.lt (.int 0) = false) {retry : Nat} {d : Number}
    (h : p.delay retry = .ok d) (hd : p.IsUsable d) : p.IsSound where
  inRange := by
    intro n hn
    have hnan : p.baseDelay ≠ .double .nan := by
      simp [hn]
    rcases Number.toDouble?_cases (Number.zero_le_of_not_lt hnan hbase) with ⟨-, hrange⟩ | ⟨hx, -⟩
    · exact hrange n hn
    · rw [delay_of_toDouble?_none hx] at h
      cases h
  base := by
    intro hnan
    -- what is not a number stays so when it is doubled, and it is the smaller one of any two
    have : p.baseDelay.toDouble? = some .nan := by
      rw [hnan]
      rfl
    rw [delay_of_toDouble? this] at h
    cases h
    have hleast : (Number.double (Double.scale (min (retry - 1) maxDoublings) .nan)).least
        p.maxDelay = .double .nan := by
      have : p.maxDelay.lt (.double .nan) = false := by
        rw [Number.lt, Number.quantity_eq_nan_iff.mpr rfl]
        cases p.maxDelay.quantity <;> rfl
      rw [Double.scale, Number.least, if_neg (by simp [this])]
    rw [hleast] at hd
    cases hd.1
  greatest := by
    intro hnan
    have := hd.2
    rw [hnan, Number.le, Number.quantity_eq_nan_iff.mpr rfl] at this
    revert this
    cases d.quantity <;> simp [Quantity.le, Quantity.lt, Quantity.eq]

/-- An accepted policy has a usable pause `p.delayAt (.int n)` before each retry if it is sound,
and before none if it is not; where there is no pause at all the base delay is too large for a
double. -/
theorem delayAt_usable {maxRetries baseDelay maxDelay : Value}
    (h : make maxRetries baseDelay maxDelay = .ok p) {n : Int} (hn : 1 ≤ n) :
    ((∃ d, p.delayAt (.int n) = .ok d ∧ p.IsUsable d) ↔ p.IsSound) ∧
      ∀ e, p.delayAt (.int n) = .error e → e = .overflow := by
  obtain ⟨hbase, hgreatest⟩ := not_below_of_make h
  rw [delayAt_int p hn]
  constructor
  · constructor
    · rintro ⟨d, hd, husable⟩
      exact .of_usable hbase hd husable
    · intro hp
      exact hp.exists_usable hbase hgreatest _
  · intro e he
    -- The conversion of the base delay is the only step that may fail.
    cases hx : p.baseDelay.toDouble? with
    | none =>
      rw [delay_of_toDouble?_none hx] at he
      cases he
      rfl
    | some x =>
      rw [delay_of_toDouble? hx] at he
      cases he

/-- A policy without bounds is sound, although all that doubles beyond a point is infinite. -/
theorem delayAt_usable_infinite :
    ∃ p, make (.int 2) (.double (.infinite false)) (.int (Nat.pow 10 400)) = .ok p ∧
      (1 : Int) ≤ 2000 ∧ ∃ d, p.delayAt (.int 2000) = .ok d ∧ p.IsUsable d := by
  have h := make_ofNumber 2 (.double (.infinite false)) (.int (Nat.pow 10 400)) rfl
    (by decide +kernel)
  have hsound : IsSound ⟨2, .double (.infinite false), .int (Nat.pow 10 400)⟩ :=
    ⟨by rintro _ ⟨⟩, by rintro ⟨⟩, by rintro ⟨⟩⟩
  exact ⟨_, h, by decide, (delayAt_usable h (by decide)).1.mpr hsound⟩

/-- Accepted policies without a usable pause: a base delay beyond the doubles, and delays that are
not numbers. -/
theorem delayAt_unusable :
    (∃ p, make (.int 4) (.int (Nat.pow 10 400)) (.ofNumber standard.maxDelay) = .ok p ∧
      p.delayAt (.int 1) = .error .overflow) ∧
    (∃ p, make (.int 4) (.double .nan) (.ofNumber standard.maxDelay) = .ok p ∧
      ∃ d, p.delayAt (.int 1) = .ok d ∧ ¬ p.IsUsable d) ∧
    ∃ p, make (.int 4) (.ofNumber standard.baseDelay) (.double .nan) = .ok p ∧
      ∃ d, p.delayAt (.int 1) = .ok d ∧ ¬ p.IsUsable d := by
  have hbase : standard.baseDelay.lt (.int 0) = false := by decide +kernel
  have hgreatest : standard.maxDelay.lt (.int 0) = false := by decide +kernel
  have hfirst : (1 : Int) ≤ 1 := le_refl 1
  refine ⟨⟨_, make_ofNumber 4 (.int (Nat.pow 10 400)) _ (by decide +kernel) hgreatest, ?_⟩,
    ⟨_, make_ofNumber 4 (.double .nan) _ rfl hgreatest, _, delayAt_int _ hfirst, ?_⟩,
    ⟨_, make_ofNumber 4 _ (.double .nan) hbase rfl, _, delayAt_int _ hfirst, ?_⟩⟩
  · have hbeyond : Double.firstBeyond ≤ Nat.pow 10 400 := by decide +kernel
    have hnone : (Number.int (Nat.pow 10 400)).toDouble? = none :=
      (Double.ofInt?_natCast _).2 hbeyond
    rw [delayAt_int _ hfirst]
    exact delay_of_toDouble?_none (p := ⟨4, .int (Nat.pow 10 400), _⟩) hnone _
  · intro hd
    exact (IsSound.of_usable (p := ⟨4, .double .nan, _⟩) rfl rfl hd).base rfl
  · intro hd
    exact (IsSound.of_usable (p := ⟨4, _, .double .nan⟩) hbase rfl hd).greatest rfl

end RetryPolicy

/-! ## The formula in doubles -/

namespace Number

/-- The value of `x` as a fraction, unless it is infinite or not a number. -/
def toRat? (x : Number) : Option ℚ :=
  match x.quantity with
  | .nan => none
  | .infinite _ => none
  | .exact u => some ((u : ℚ) / Double.one)

/-- `x.toRat?` of an exact quantity counts its units. -/
theorem toRat?_of_exact {x : Number} {u : Int} (h : x.quantity = .exact u) :
    x.toRat? = some ((u : ℚ) / Double.one) := by
  rw [toRat?, h]

/-- `0 < Double.one`, as a fraction. -/
theorem one_pos_rat : (0 : ℚ) < Double.one := by exact_mod_cast Double.one_pos

/-- `(u : ℚ) / Double.one ≤ v / Double.one`: more units have a greater value. -/
theorem units_div_le {u v : Int} (h : u ≤ v) : (u : ℚ) / Double.one ≤ v / Double.one :=
  div_le_div_of_nonneg_right (by exact_mod_cast h) one_pos_rat.le

/-- `(Number.double x).toRat? = some r`: A double with a value that is not below zero is finite, and
its magnitude is that value. -/
theorem exists_magnitude_of_toRat? {x : Double} {r : ℚ} (h : (Number.double x).toRat? = some r)
    (hr : 0 ≤ r) :
    ∃ s u hu, x = .finite s u hu ∧ Double.signed s u = u ∧ r = u / Double.one := by
  cases x with
  | nan => cases h
  | infinite s => cases h
  | finite s u hu =>
    have hvalue : ((Double.signed s u : Int) : ℚ) / Double.one = r := Option.some.inj h
    have hnonneg : 0 ≤ Double.signed s u := by
      have : (0 : ℚ) ≤ (Double.signed s u : Int) := by
        rw [← hvalue] at hr
        simpa using (le_div_iff₀ one_pos_rat).mp hr
      exact_mod_cast this
    -- With a sign it is zero, or its value would be below that.
    have hsigned : Double.signed s u = u := by
      cases s with
      | false => rfl
      | true =>
        simp only [Double.signed, if_true] at hnonneg ⊢
        omega
    refine ⟨s, u, hu, rfl, hsigned, ?_⟩
    rw [← hvalue, hsigned, Int.cast_natCast]

/-- `(a.least b).toRat?`: the smaller one of two numbers has the smaller value. -/
theorem toRat?_least {a b : Number} {u v : Int} (ha : a.quantity = .exact u)
    (hb : b.quantity = .exact v) :
    (a.least b).toRat? = some (min ((u : ℚ) / Double.one) ((v : ℚ) / Double.one)) := by
  have hlt : b.lt a = true ↔ v < u := by
    rw [lt, ha, hb, Quantity.lt_exact, decide_eq_true_eq]
  by_cases h : v < u
  · rw [least, if_pos (hlt.mpr h), toRat?_of_exact hb, min_eq_right (units_div_le h.le)]
  · rw [least, if_neg (mt hlt.mp h), toRat?_of_exact ha,
      min_eq_left (units_div_le (not_lt.mp h))]

/-- `Nat.pow 2 k` is `2 ^ k`, as a fraction. -/
theorem cast_pow_two (k : Nat) : ((Nat.pow 2 k : Nat) : ℚ) = 2 ^ k := Nat.cast_pow 2 k

/-- A double that is doubled some times and cut to another: leaving the range does not show, since
the other one is in the range. -/
theorem toRat?_scale_least {x y : Double} {b m : ℚ} (hb : (Number.double x).toRat? = some b)
    (hm : (Number.double y).toRat? = some m) (hb0 : 0 ≤ b) (hm0 : 0 ≤ m) (k : Nat) :
    ((Number.double (x.scale k)).least (.double y)).toRat? = some (min (b * 2 ^ k) m) := by
  obtain ⟨s, u, hu, rfl, hsu, rfl⟩ := exists_magnitude_of_toRat? hb hb0
  obtain ⟨t, v, hv, rfl, htv, rfl⟩ := exists_magnitude_of_toRat? hm hm0
  have hscale := Double.quantity_scale hu (s := s) (by omega) k
  have hy : (Number.double (.finite t v hv)).quantity = .exact v := congrArg Quantity.exact htv
  have hpow : (u : ℚ) / Double.one * 2 ^ k = ((u * Nat.pow 2 k : Nat) : Int) / Double.one := by
    rw [Int.cast_natCast, Nat.cast_mul, cast_pow_two, div_mul_eq_mul_div]
  rw [hpow, ← Int.cast_natCast v]
  by_cases hrange : u * Nat.pow 2 k < Double.bound
  · -- In the range: doubling is exact.
    rw [if_pos hrange] at hscale
    exact toRat?_least (a := .double ((Double.finite s u hu).scale k)) hscale hy
  · -- Beyond it: the doubled one is infinite, and the value of `y` is the smaller one either way.
    rw [if_neg hrange] at hscale
    have hlt : (Number.double (.finite t v hv)).lt
        (.double ((Double.finite s u hu).scale k)) = true := by
      rw [lt, hy, quantity, hscale]
      rfl
    have hle : (v : Int) ≤ (u * Nat.pow 2 k : Nat) := by
      exact_mod_cast hv.1.le.trans (not_lt.mp hrange)
    rw [least, if_pos hlt, toRat?_of_exact hy, min_eq_right (units_div_le hle)]

end Number

/-- `min (b * 2 ^ min i cap) m = min (b * 2 ^ i) m`: A cap on the number of doublings does not show
exactly if the number is not above it, or there is nothing to double, or the capped pause is as long
as any is. -/
theorem min_capped_eq_iff {b m : ℚ} (hb : 0 ≤ b) {i cap : Nat} :
    min (b * 2 ^ min i cap) m = min (b * 2 ^ i) m ↔ i ≤ cap ∨ b = 0 ∨ m ≤ b * 2 ^ cap := by
  by_cases hi : i ≤ cap
  · simp [hi]
  have hlt : (2 : ℚ) ^ cap < 2 ^ i := pow_lt_pow_right₀ one_lt_two (not_le.mp hi)
  rw [Nat.min_eq_right (by omega)]
  simp only [hi, false_or]
  constructor
  · intro h
    by_contra hnone
    obtain ⟨h0, hm⟩ := not_or.mp hnone
    have hpos : 0 < b := lt_of_le_of_ne hb (Ne.symm h0)
    rw [min_eq_left (not_le.mp hm).le] at h
    exact absurd h (ne_of_lt (lt_min (mul_lt_mul_of_pos_left hlt hpos) (not_le.mp hm)))
  · rintro (rfl | hm)
    · simp
    · rw [min_eq_right hm, min_eq_right (hm.trans (mul_le_mul_of_nonneg_left hlt.le hb))]

namespace RetryPolicy

/-- The pauses `delayAt` of a policy in finite doubles, as fractions. -/
theorem exists_toRat?_delayAt (retries : Nat) {base greatest : Double} {b m : ℚ}
    (hb : (Number.double base).toRat? = some b) (hm : (Number.double greatest).toRat? = some m)
    (hb0 : 0 ≤ b) (hm0 : 0 ≤ m) {n : Int} (hn : 1 ≤ n) :
    ∃ d, delayAt ⟨retries, .double base, .double greatest⟩ (.int n) = .ok d ∧
      d.toRat? = some (min (b * 2 ^ min (n.toNat - 1) maxDoublings) m) := by
  rw [delayAt_int _ hn]
  exact ⟨_, delay_of_toDouble? rfl _, Number.toRat?_scale_least hb hm hb0 hm0 _⟩

/-- The pause before each retry `n` is the smaller one of the greatest delay `m` and the base delay
`b` doubled as often as the cap allows. That is `min (b * 2 ^ (n - 1)) m`, what the doublings
without a cap give, except before the retries after the cap where the base delay is so small that
the cap leaves it below the greatest delay. -/
theorem delayAt_follows_formula (retries : Nat) {base greatest : Double} {b m : ℚ}
    (hb : (Number.double base).toRat? = some b) (hm : (Number.double greatest).toRat? = some m)
    (hb0 : 0 ≤ b) (hm0 : 0 ≤ m) {n : Int} (hn : 1 ≤ n) :
    ∃ d r, delayAt ⟨retries, .double base, .double greatest⟩ (.int n) = .ok d ∧
      d.toRat? = some r ∧ r = min (b * 2 ^ min (n.toNat - 1) maxDoublings) m ∧
      (r = min (b * 2 ^ (n.toNat - 1)) m ↔
        n ≤ maxDoublings + 1 ∨ b = 0 ∨ m ≤ b * 2 ^ maxDoublings) := by
  obtain ⟨d, hd, hr⟩ := exists_toRat?_delayAt retries hb hm hb0 hm0 hn
  refine ⟨d, _, hd, hr, rfl, ?_⟩
  have hcap : n.toNat - 1 ≤ maxDoublings ↔ n ≤ maxDoublings + 1 := by omega
  rw [min_capped_eq_iff hb0, hcap]

/-- `k` seconds have the value `k`. -/
theorem toRat?_seconds {k : Nat} (h : Double.IsMagnitude (k * Double.one)) :
    (Number.double (.finite false (k * Double.one) h)).toRat? = some (k : ℚ) := by
  rw [Number.toRat?_of_exact rfl, Double.signed, if_neg Bool.false_ne_true, Int.cast_natCast,
    Nat.cast_mul, mul_div_cancel_right₀ _ Number.one_pos_rat.ne']

/-- Four is the magnitude of a double. -/
theorem isMagnitude_four : Double.IsMagnitude (4 * Double.one) := by decide +kernel

/-- Sixty is the magnitude of a double. -/
theorem isMagnitude_sixty : Double.IsMagnitude (60 * Double.one) := by decide +kernel

/-- One unit is the magnitude of a double. -/
theorem isMagnitude_unit : Double.IsMagnitude 1 := by decide +kernel

/-- Four seconds are doubled out of the range, which does not show. -/
theorem delayAt_follows_formula_four :
    (Number.double (.finite false (4 * Double.one) isMagnitude_four)).toRat? = some 4 ∧
      (Number.double (.finite false (60 * Double.one) isMagnitude_sixty)).toRat? = some 60 ∧
      (0 : ℚ) ≤ 4 ∧ (0 : ℚ) ≤ 60 ∧ (1 : Int) ≤ 2000 ∧
      ∃ d, delayAt ⟨4, .double (.finite false (4 * Double.one) isMagnitude_four),
          .double (.finite false (60 * Double.one) isMagnitude_sixty)⟩ (.int 2000) = .ok d ∧
        d.toRat? = some (min (4 * 2 ^ 1999) 60) := by
  have hbase : _ = some (4 : ℚ) := toRat?_seconds isMagnitude_four
  have hgreatest : _ = some (60 : ℚ) := toRat?_seconds isMagnitude_sixty
  obtain ⟨d, r, hd, hr, -, hformula⟩ := delayAt_follows_formula 4 hbase hgreatest (n := 2000)
    (by norm_num) (by norm_num) (by decide)
  have hcap : (60 : ℚ) ≤ 4 * 2 ^ maxDoublings :=
    calc (60 : ℚ) ≤ 4 * 2 ^ 4 := by norm_num
      _ ≤ 4 * 2 ^ maxDoublings := by
        gcongr
        · exact one_le_two
        · decide
  refine ⟨hbase, hgreatest, by norm_num, by norm_num, by decide, d, hd, ?_⟩
  rw [hr, hformula.mpr (.inr (.inr hcap))]
  rfl

/-- The least double above zero, doubled as often as the cap allows, is still below a second. -/
theorem delayAt_capShows :
    ∃ d r, delayAt ⟨4, .double (.finite false 1 isMagnitude_unit),
        .double (.finite false (60 * Double.one) isMagnitude_sixty)⟩ (.int 2000) = .ok d ∧
      d.toRat? = some r ∧ r ≠ min ((1 : ℚ) / Double.one * 2 ^ 1999) 60 := by
  have hbase : (Number.double (.finite false 1 isMagnitude_unit)).toRat? =
      some (1 / Double.one : ℚ) := Number.toRat?_of_exact rfl
  have hbase0 : (0 : ℚ) < 1 / Double.one := one_div_pos.mpr Number.one_pos_rat
  obtain ⟨d, hd, hr⟩ := exists_toRat?_delayAt 4 hbase (toRat?_seconds isMagnitude_sixty)
    (n := 2000) hbase0.le (by norm_num) (by decide)
  refine ⟨d, _, hd, hr, ?_⟩
  have hcap : (1 : ℚ) / Double.one * 2 ^ maxDoublings ≤ 1 := by
    have hpow : Nat.pow 2 maxDoublings ≤ Double.one := by decide +kernel
    rw [div_mul_eq_mul_div, one_mul, div_le_one Number.one_pos_rat, ← Number.cast_pow_two]
    exact_mod_cast hpow
  refine mt (min_capped_eq_iff hbase0.le).mp ?_
  rintro (h | h | h)
  · exact absurd h (by decide)
  · exact absurd h hbase0.ne'
  · linarith

end RetryPolicy

end ObjectStore
