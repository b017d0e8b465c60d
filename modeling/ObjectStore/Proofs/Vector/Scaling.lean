import Mathlib
import ObjectStore.Proofs.Number.RoundingBounds
import ObjectStore.Proofs.Vector.Coercion

/-! # Scaled vectors

A vector is scaled by dividing its items by its length. Vectors that are too short for that are
objected to, but the sum of the squares can also leave the range of the doubles, and then the length
is infinite and every quotient a zero. If it stays in the range, then all items are small enough and
one is large enough for their quotients to be finite and one of them not a zero.

* `Double.squareBound`: the least magnitude whose square is beyond the range.
* `Vector.norm_cases`: the length of a vector of finite doubles.
* `Vector.scaled_ne_zero_iff`: when a scaled vector has an item that is not a zero. -/

namespace ObjectStore.Double

variable {s : Bool} {u r : Nat} {hu : IsMagnitude u} {hr : IsMagnitude r} {x y : Double}

/-- `x.isFinite = true`: A finite double is a sign with a magnitude. -/
theorem exists_eq_finite (h : x.isFinite = true) : ∃ s u hu, x = finite s u hu := by
  cases x with
  | finite s u hu => exact ⟨s, u, hu, rfl⟩
  | _ => cases h

/-- `(finite s u hu).isZero = false` if `u ≠ 0`. -/
theorem isZero_finite (h : u ≠ 0) : (finite s u hu).isZero = false := by
  cases u with
  | zero => exact absurd rfl h
  | succ u => rfl

/-! ## Squares -/

/-- The least magnitude whose square is beyond the range of the doubles. -/
@[irreducible] def squareBound : Nat := Nat.pow 2 1586

/-- `squareBound * squareBound = bound * one`. -/
theorem squareBound_mul_self : squareBound * squareBound = bound * one := by decide +kernel

/-- `squareBound` is the magnitude of a double. -/
theorem isMagnitude_squareBound : IsMagnitude squareBound := by decide +kernel

/-- `(finite s u hu).mul (finite s u hu) = rounded false (u * u) one`: the square of a finite double
is rounded once, and its sign is lost. -/
theorem mul_self_eq_rounded (s : Bool) (u : Nat) (hu : IsMagnitude u) :
    (finite s u hu).mul (finite s u hu) = rounded false (u * u) one := by
  rw [mul, bne_self_eq_false]

/-- `u < squareBound` if the square of `u` units is finite. -/
theorem lt_squareBound (h : ((finite s u hu).mul (finite s u hu)).isFinite = true) :
    u < squareBound := by
  by_contra hle
  have hbeyond : bound * one ≤ u * u := by
    rw [← squareBound_mul_self]
    exact Nat.mul_self_le_mul_self (Nat.not_lt.1 hle)
  rw [mul_self_eq_rounded, rounded_eq_infinite one_pos hbeyond] at h
  cases h

/-- `squareBound ≤ u * one`: A magnitude whose square does not vanish is, in units of one, not below
the bound. -/
theorem squareBound_le_mul_one (h : (finite s u hu).mul (finite s u hu) ≠ zero) :
    squareBound ≤ u * one := by
  have hsquare : one < 2 * (u * u) := by
    by_contra hle
    refine h ?_
    rw [mul_self_eq_rounded, rounded_eq_zeroOf (Nat.not_lt.1 hle)]
    rfl
  -- Were the magnitude below the bound, two of its squares would not come to one.
  by_contra hlt
  have hbelow : (u * one) * (u * one) < bound * one := by
    rw [← squareBound_mul_self]
    exact Nat.mul_self_lt_mul_self (Nat.not_le.1 hlt)
  have hrange : 2 * bound ≤ one * one := by decide +kernel
  refine Nat.lt_irrefl (one * one * one) ?_
  calc one * one * one < 2 * (u * u) * (one * one) := by
        rw [Nat.mul_assoc]
        exact Nat.mul_lt_mul_of_pos_right hsquare (Nat.mul_pos one_pos one_pos)
    _ = 2 * ((u * one) * (u * one)) := by ring
    _ ≤ 2 * (bound * one) := Nat.mul_le_mul_left 2 hbelow.le
    _ = 2 * bound * one := (Nat.mul_assoc 2 bound one).symm
    _ ≤ one * one * one := Nat.mul_le_mul_right one hrange

/-! ## Sums of squares -/

/-- What squares add up to: a double that is not below zero, or the infinite one. -/
inductive IsSum : Double → Prop
  | finite (u : Nat) (hu : IsMagnitude u) : IsSum (.finite false u hu)
  | infinite : IsSum (.infinite false)

/-- `IsSum (rounded false num den)`. -/
theorem isSum_rounded (num den : Nat) : IsSum (rounded false num den) := by
  rw [rounded, ofUnits]
  split
  · exact .finite _ _
  · exact .infinite

/-- `IsSum (x.mul x)` for a finite double. -/
theorem isSum_mul_self (h : x.isFinite = true) : IsSum (x.mul x) := by
  obtain ⟨s, u, hu, rfl⟩ := exists_eq_finite h
  rw [mul_self_eq_rounded]
  exact isSum_rounded _ _

/-- Magnitudes are added as whole numbers and rounded once. -/
theorem add_finite_false (u v : Nat) (hu : IsMagnitude u) (hv : IsMagnitude v) :
    (finite false u hu).add (finite false v hv) =
      if u + v = 0 then zero else rounded false (u + v) 1 := by
  have hsum : signed false u + signed false v = ((u + v : Nat) : Int) := by
    simp [signed]
  have hsign : decide (((u + v : Nat) : Int) < 0) = false := decide_eq_false (by omega)
  simp only [add, hsum, hsign, Int.natCast_eq_zero, Int.natAbs_natCast, Bool.and_false]
  rfl

/-- `IsSum (x.add y)` if both terms are such. -/
theorem IsSum.add (hx : IsSum x) (hy : IsSum y) : IsSum (x.add y) := by
  cases hx with
  | infinite => cases hy <;> exact .infinite
  | finite u hu =>
    cases hy with
    | infinite => exact .infinite
    | finite v hv =>
      rw [add_finite_false]
      split
      · exact .finite _ _
      · exact isSum_rounded _ _

/-- `(x.add y).isFinite = true`: the terms of a finite sum are finite. -/
theorem IsSum.isFinite_of_add (hx : IsSum x) (hy : IsSum y) (h : (x.add y).isFinite = true) :
    x.isFinite = true ∧ y.isFinite = true := by
  cases hx <;> cases hy <;> first | exact ⟨rfl, rfl⟩ | cases h

/-! ## Quotients -/

/-- A quotient by a positive magnitude is rounded once. -/
theorem div_eq_rounded (h : 0 < r) :
    (finite s u hu).div (finite false r hr) = rounded (s != false) (u * one) r := by
  rw [div, if_neg (Nat.ne_of_gt h)]

/-- `x.div y`: a magnitude whose square is in the range has a quotient in the range by what is not
far below one. -/
theorem isFinite_div (hlt : u < squareBound) (hpos : 0 < r) (hone : one ≤ 2 ^ 40 * r) :
    ((finite s u hu).div (finite false r hr)).isFinite = true := by
  have hbound : IsMagnitude (squareBound * 2 ^ 40) := by decide +kernel
  have hle : u * one ≤ squareBound * 2 ^ 40 * r := by
    rw [Nat.mul_assoc]
    exact Nat.mul_le_mul hlt.le hone
  obtain ⟨_, hquotient⟩ := exists_rounded_eq_finite hbound hpos hle (s != false)
  rw [div_eq_rounded hpos, hquotient]
  rfl

/-- `x.div y`: a quotient of at least one unit is no zero. -/
theorem isZero_div (hpos : 0 < r) (hle : r ≤ u * one) :
    ((finite s u hu).div (finite false r hr)).isZero = false := by
  have hunit : 1 ≤ roundUnits (u * one) r :=
    le_roundUnits (by decide) hpos (by rwa [Nat.one_mul])
  rw [div_eq_rounded hpos, rounded, ofUnits]
  split
  · exact isZero_finite (Nat.ne_of_gt hunit)
  · rfl

/-- `(x.div (infinite false)).isZero = true`: A finite double divided by the infinite one is a
zero. -/
theorem isZero_div_infinite (h : x.isFinite = true) :
    (x.div (infinite false)).isFinite = true ∧ (x.div (infinite false)).isZero = true := by
  obtain ⟨s, u, hu, rfl⟩ := exists_eq_finite h
  exact ⟨rfl, rfl⟩

end ObjectStore.Double

namespace ObjectStore.Vector

variable {v : Value} {xs ys : List Double} {sum : Double}

/-! ## The length of a vector -/

/-- Squares added to a sum are a sum. -/
theorem isSum_foldl (hsum : sum.IsSum) (hxs : ∀ x ∈ xs, x.isFinite = true) :
    (xs.foldl (fun sum x => sum.add (x.mul x)) sum).IsSum := by
  induction xs generalizing sum with
  | nil => exact hsum
  | cons x xs ih =>
    obtain ⟨hx, hxs⟩ := List.forall_mem_cons.1 hxs
    exact ih (hsum.add (Double.isSum_mul_self hx)) hxs

/-- A sum of squares that stays in the range has done so from the start, and so have the squares. -/
theorem isFinite_of_foldl (hsum : sum.IsSum) (hxs : ∀ x ∈ xs, x.isFinite = true)
    (h : (xs.foldl (fun sum x => sum.add (x.mul x)) sum).isFinite = true) :
    sum.isFinite = true ∧ ∀ x ∈ xs, (x.mul x).isFinite = true := by
  induction xs generalizing sum with
  | nil => exact ⟨h, fun _ hx => nomatch hx⟩
  | cons x xs ih =>
    obtain ⟨hx, hxs⟩ := List.forall_mem_cons.1 hxs
    have hsquare := Double.isSum_mul_self hx
    obtain ⟨hadd, hrest⟩ := ih (hsum.add hsquare) hxs h
    obtain ⟨hfirst, hx⟩ := hsum.isFinite_of_add hsquare hadd
    exact ⟨hfirst, List.forall_mem_cons.2 ⟨hx, hrest⟩⟩

/-- `squares xs = Double.zero` if all squares are zero. -/
theorem squares_eq_zero (h : ∀ x ∈ xs, x.mul x = Double.zero) : squares xs = Double.zero := by
  have hzero : Double.zero.add Double.zero = Double.zero := rfl
  induction xs with
  | nil => rfl
  | cons x xs ih =>
    obtain ⟨hx, hxs⟩ := List.forall_mem_cons.1 h
    rw [squares, List.foldl_cons, hx, hzero]
    exact ih hxs

/-- `norm xs`: the length of a vector of finite doubles is infinite or zero with the sum of the
squares, and otherwise a magnitude not above the bound of squares. -/
theorem norm_cases (hxs : ∀ x ∈ xs, x.isFinite = true) :
    (squares xs = .infinite false ∧ norm xs = .infinite false) ∨
      (squares xs = Double.zero ∧ norm xs = Double.zero) ∨
      squares xs ≠ Double.zero ∧ (squares xs).isFinite = true ∧
        ∃ r hr, norm xs = .finite false r hr ∧ r ≤ Double.squareBound := by
  have hsum : (squares xs).IsSum := isSum_foldl (.finite 0 _) hxs
  rw [norm]
  generalize squares xs = sum at hsum ⊢
  cases hsum with
  | infinite => exact .inl ⟨rfl, rfl⟩
  | finite u hu =>
    by_cases h0 : u = 0
    · subst h0
      exact .inr (.inl ⟨rfl, rfl⟩)
    · -- The sum is in the range, so its root is below the bound that the range is the square of.
      have hrange : u * Double.one < Double.squareBound * Double.squareBound := by
        rw [Double.squareBound_mul_self]
        exact Nat.mul_lt_mul_of_pos_right hu.1 Double.one_pos
      refine .inr (.inr ⟨fun hzero => ?_, rfl, ?_⟩)
      · cases hzero
        exact h0 rfl
      · exact Double.exists_sqrt_eq_finite h0 Double.isMagnitude_squareBound hrange

/-! ## Scaling -/

/-- `minNorm`: the least length, in units, and how far it is below one. -/
theorem exists_minNorm_eq_finite :
    ∃ u hu, minNorm = .finite false u hu ∧ 0 < u ∧ Double.one ≤ 2 ^ 40 * u :=
  ⟨Double.roundUnits (1 * Double.one) (Nat.pow 10 12), by decide +kernel, by decide +kernel,
    by decide +kernel, by decide +kernel⟩

/-- A length that is not below the least one is not zero, and not far below one. -/
theorem pos_of_not_lt_minNorm {r : Nat} {hr : Double.IsMagnitude r}
    (h : (Number.double (.finite false r hr)).lt (.double minNorm) = false) :
    0 < r ∧ Double.one ≤ 2 ^ 40 * r := by
  obtain ⟨u, hu, hmin, hpos, hone⟩ := exists_minNorm_eq_finite
  have hle : u ≤ r := by
    rw [hmin, Number.lt, Number.quantity, Number.quantity, Quantity.ofDouble, Quantity.ofDouble,
      Quantity.lt_exact, decide_eq_false_iff_not] at h
    simpa [Double.signed] using h
  exact ⟨hpos.trans_le hle, hone.trans (Nat.mul_le_mul_left _ hle)⟩

/-- `normalize xs = .ok ys`: the norm is not below `minNorm`, and `ys` are the quotients by it. -/
theorem normalize_eq_ok_iff :
    normalize xs = .ok ys ↔
      (Number.double (norm xs)).lt (.double minNorm) = false ∧ ys = xs.map (·.div (norm xs)) := by
  rw [normalize]
  split
  · next hshort => simp [hshort]
  · next hlong => simp [hlong, eq_comm]

/-- `normalize xs = .ok ys`: scaling keeps the number of items and leaves them finite. One of them
is not a zero exactly if the sum of the squares is in the range. -/
theorem normalize_spec (hxs : ∀ x ∈ xs, x.isFinite = true) (h : normalize xs = .ok ys) :
    ys.length = xs.length ∧ (∀ y ∈ ys, y.isFinite = true) ∧
      ((∃ y ∈ ys, y.isZero = false) ↔ (squares xs).isFinite = true) := by
  obtain ⟨hlong, rfl⟩ := normalize_eq_ok_iff.1 h
  refine ⟨List.length_map _, ?_⟩
  have hexists : (∃ y ∈ xs.map (·.div (norm xs)), y.isZero = false) ↔
      ∃ x ∈ xs, (x.div (norm xs)).isZero = false := by
    simp only [List.mem_map, exists_exists_and_eq_and]
  rw [List.forall_mem_map, hexists]
  rcases norm_cases hxs with ⟨hsquares, hnorm⟩ | ⟨-, hnorm⟩ | ⟨hne, hfinite, r, hr, hnorm, hle⟩
  · rw [hnorm, hsquares]
    refine ⟨fun x hx => (Double.isZero_div_infinite (hxs x hx)).1, ?_, fun h => nomatch h⟩
    rintro ⟨x, hx, hzero⟩
    rw [(Double.isZero_div_infinite (hxs x hx)).2] at hzero
    cases hzero
  · rw [hnorm] at hlong
    exact absurd (pos_of_not_lt_minNorm hlong).1 (Nat.lt_irrefl 0)
  · rw [hnorm] at hlong ⊢
    obtain ⟨hpos, hone⟩ := pos_of_not_lt_minNorm hlong
    have hsquares := (isFinite_of_foldl (.finite 0 _) hxs hfinite).2
    have hall : ∀ x ∈ xs, (x.div (.finite false r hr)).isFinite = true := by
      intro x hx
      obtain ⟨s, u, hu, rfl⟩ := Double.exists_eq_finite (hxs x hx)
      exact Double.isFinite_div (Double.lt_squareBound (hsquares _ hx)) hpos hone
    refine ⟨hall, fun _ => hfinite, fun _ => ?_⟩
    -- Some square does not vanish, or else the sum would: its item is large enough.
    obtain ⟨x, hx, hsquare⟩ : ∃ x ∈ xs, x.mul x ≠ Double.zero := by
      by_contra hnone
      refine hne (squares_eq_zero fun x hx => ?_)
      by_contra hsquare
      exact hnone ⟨x, hx, hsquare⟩
    refine ⟨x, hx, ?_⟩
    obtain ⟨s, u, hu, rfl⟩ := Double.exists_eq_finite (hxs x hx)
    exact Double.isZero_div hpos (hle.trans (Double.squareBound_le_mul_one hsquare))

/-- `coerce v true = .ok ys`: `ys` is the vector of `v`, normalized. -/
theorem coerce_true_eq_ok_iff :
    coerce v true = .ok ys ↔ ∃ xs, IsVectorOf ReadsAs v xs ∧ normalize xs = .ok ys := by
  rw [coerce_true]
  constructor
  · intro h
    obtain ⟨xs, hxs, h⟩ := bind_eq_ok h
    exact ⟨xs, coerce_eq_ok_iff.1 hxs, h⟩
  · rintro ⟨xs, hxs, h⟩
    rw [coerce_eq_ok_iff.2 hxs]
    exact h

/-- A vector that is taken scaled, `coerce v true = .ok ys`, is one that is taken as it is, with as
many items, all of them finite. One of them is not a zero exactly if `squares xs` is in the range of
the doubles: otherwise all of them are. -/
theorem scaled_ne_zero_iff (h : coerce v true = .ok ys) :
    ∃ xs, IsVectorOf ReadsAs v xs ∧ ys.length = xs.length ∧ (∀ y ∈ ys, y.isFinite = true) ∧
      ((∃ y ∈ ys, y.isZero = false) ↔ (squares xs).isFinite = true) := by
  obtain ⟨xs, hvector, h⟩ := coerce_true_eq_ok_iff.1 h
  have ⟨_, _, _, _, hfinite⟩ := hvector
  exact ⟨xs, hvector, normalize_spec hfinite h⟩

/-- The numbers three and four are scaled to three fifths and four fifths. -/
theorem scaled_ne_zero_iff_threeFour :
    coerce (.list [.int 3, .int 4]) true =
        .ok [Double.ofRatio false 3 5, Double.ofRatio false 4 5] ∧
      ∃ xs, IsVectorOf ReadsAs (.list [.int 3, .int 4]) xs ∧
        [Double.ofRatio false 3 5, Double.ofRatio false 4 5].length = xs.length ∧
        (∀ y ∈ [Double.ofRatio false 3 5, Double.ofRatio false 4 5], y.isFinite = true) ∧
        ((∃ y ∈ [Double.ofRatio false 3 5, Double.ofRatio false 4 5], y.isZero = false) ↔
          (squares xs).isFinite = true) := by
  have hvector : IsVectorOf ReadsAs (.list [.int 3, .int 4])
      [Double.ofRatio false 3 1, Double.ofRatio false 4 1] :=
    ⟨_, rfl, List.cons_ne_nil _ _,
      .cons (.number (.int (by decide +kernel))) (.cons (.number (.int (by decide +kernel))) .nil),
      by decide +kernel⟩
  have hscaled : coerce (.list [.int 3, .int 4]) true =
      .ok [Double.ofRatio false 3 5, Double.ofRatio false 4 5] :=
    coerce_true_eq_ok_iff.2 ⟨_, hvector,
      normalize_eq_ok_iff.2 ⟨by decide +kernel, by decide +kernel⟩⟩
  exact ⟨hscaled, scaled_ne_zero_iff hscaled⟩

/-- The vector of ten to the power of two hundred alone is scaled to a zero, since its length is
infinite. -/
theorem scaled_zero_infiniteLength :
    (Double.ofRatio false (10 ^ 200) 1).isFinite = true ∧
      coerce (.list [.double (Double.ofRatio false (10 ^ 200) 1)]) true = .ok [Double.zero] ∧
      ¬ ∃ y ∈ [Double.zero], y.isZero = false := by
  have hfinite : (Double.ofRatio false (10 ^ 200) 1).isFinite = true := by decide +kernel
  have hvector : IsVectorOf ReadsAs (.list [.double (Double.ofRatio false (10 ^ 200) 1)])
      [Double.ofRatio false (10 ^ 200) 1] :=
    ⟨_, rfl, List.cons_ne_nil _ _, .cons (.number (.double _)) .nil,
      List.forall_mem_singleton.2 hfinite⟩
  refine ⟨hfinite, coerce_true_eq_ok_iff.2 ⟨_, hvector, ?_⟩, by decide +kernel⟩
  exact normalize_eq_ok_iff.2 ⟨by decide +kernel, by decide +kernel⟩

end ObjectStore.Vector
