import Mathlib
import ObjectStore.Proofs.Except
import ObjectStore.Proofs.Number.WholeRange
import ObjectStore.Proofs.Vector.Nesting

/-! # Values taken as vectors

A vector is to be a sequence of numbers, and everything else is to be objected to. Numerals are
taken for the numbers that they write, and a whole number beyond the range of the doubles is passed
on as an overflow; of values that do not come to such an item, only vectors of numbers are taken.

* `Vector.IsVectorOf`: what the vector of a value is, for a reading of its items.
* `Vector.coerce_eq_ok_iff`: which vectors are taken, `Vector.coerce_eq_error`: how the other values
  fail.
* `Vector.coerce_takes_numbers_iff`: of which values only vectors of numbers are taken. -/

namespace ObjectStore.Vector

variable {v item : Value} {x : Double} {xs : List Double} {shape : List Nat} {e : Failure}

/-! ## Items -/

/-- The double of an item that is a number; a truth value counts as one or zero. -/
inductive IsNumber : Value → Double → Prop
  | bool {b : Bool} {x : Double} (h : Double.ofInt? (Number.ofBool b) = some x) :
      IsNumber (.bool b) x
  | int {n : Int} {x : Double} (h : Double.ofInt? n = some x) : IsNumber (.int n) x
  | double (x : Double) : IsNumber (.double x) x

/-- The double that a numeral writes, given as a text or in bytes. -/
inductive IsNumeral : Value → Double → Prop
  | text {s : String} {x : Double} (h : Double.read? s = some x) : IsNumeral (.text s) x
  | bytes {bs : List UInt8} {x : Double} (h : Double.read? (bytesText bs) = some x) :
      IsNumeral (.bytes bs) x

/-- The double that an item is read as; null is read as not-a-number. -/
inductive ReadsAs : Value → Double → Prop
  | number {item : Value} {x : Double} (h : IsNumber item x) : ReadsAs item x
  | numeral {item : Value} {x : Double} (h : IsNumeral item x) : ReadsAs item x
  | null : ReadsAs .null .nan

/-- That `item` is a whole number too large for a double. -/
def IsBeyondRange (item : Value) : Prop := ∃ n : Int, item = .int n ∧ Double.firstBeyond ≤ n.natAbs

/-- `IsNumber item x`: what is a number is no numeral. -/
theorem IsNumber.not_isNumeral {y : Double} (h : IsNumber item x) : ¬ IsNumeral item y := by
  rintro (_ | _) <;> cases h

/-- `parts? item = none`: A nested value is not read as an item. -/
theorem ReadsAs.parts?_eq_none (h : ReadsAs item x) : parts? item = none := by
  cases h with
  | number h => cases h <;> rfl
  | numeral h => cases h <;> rfl
  | null => rfl

/-- `Double.ofInt? (Number.ofBool b)`: A truth value is in the range of the doubles. -/
theorem ofInt?_ofBool (b : Bool) :
    Double.ofInt? (Number.ofBool b) = some (Double.ofRatio false (if b then 1 else 0) 1) := by
  cases b <;> decide +kernel

/-- `doubleOf.inRange y = .ok x ↔ y = some x`. -/
theorem inRange_eq_ok_iff {y : Option Double} : doubleOf.inRange y = .ok x ↔ y = some x := by
  cases y <;> simp [doubleOf.inRange]

/-- `doubleOf.numeral item s = .ok x ↔ Double.read? s = some x`. -/
theorem numeral_eq_ok_iff {s : String} :
    doubleOf.numeral item s = .ok x ↔ Double.read? s = some x := by
  rw [doubleOf.numeral]
  cases Double.read? s <;> simp

/-- `doubleOf item = .ok x ↔ ReadsAs item x`: an item has a double exactly if it is read as that. -/
theorem doubleOf_eq_ok_iff : doubleOf item = .ok x ↔ ReadsAs item x := by
  constructor
  · intro h
    cases item with
    | null =>
      cases h
      exact .null
    | double y =>
      cases h
      exact .number (.double _)
    | bool b =>
      rw [doubleOf] at h
      refine .number (.bool ?_)
      rw [ofInt?_ofBool, Except.ok.inj h]
    | int n =>
      rw [doubleOf] at h
      exact .number (.int (inRange_eq_ok_iff.1 h))
    | text s =>
      rw [doubleOf] at h
      exact .numeral (.text (numeral_eq_ok_iff.1 h))
    | bytes bs =>
      rw [doubleOf] at h
      exact .numeral (.bytes (numeral_eq_ok_iff.1 h))
    | _ => cases h
  · -- The ways to be read: a truth value, a whole number, a double, a numeral in a text or in
    -- bytes, and null.
    rintro ((h | h | _) | (h | h) | _)
    · rw [ofInt?_ofBool] at h
      rw [doubleOf, Option.some.inj h]
    · rw [doubleOf, inRange_eq_ok_iff, h]
    · rfl
    · rw [doubleOf, numeral_eq_ok_iff, h]
    · rw [doubleOf, numeral_eq_ok_iff, h]
    · rfl

/-- `doubleOf item = .error .overflow`: an item beyond the range is an overflow. -/
theorem doubleOf_eq_overflow (h : IsBeyondRange item) : doubleOf item = .error .overflow := by
  obtain ⟨n, rfl, hn⟩ := h
  rw [doubleOf, Double.ofInt?_eq_none_iff.2 hn]
  rfl

/-- `doubleOf item = .error e`: of the items that have no double, those beyond the range are an
overflow and the others are objected to. -/
theorem doubleOf_eq_error (h : doubleOf item = .error e) :
    e = .overflow ∧ IsBeyondRange item ∨ (objection e).className = "ValidationError" := by
  have hnumeral : ∀ {s}, doubleOf.numeral item s = .error e →
      (objection e).className = "ValidationError" := by
    intro s h
    rw [doubleOf.numeral] at h
    split at h <;> cases h
    rfl
  cases item with
  | null => cases h
  | double y => cases h
  | bool b => cases h
  | int n =>
    -- A whole number has no double only beyond the range.
    rw [doubleOf] at h
    cases hn : Double.ofInt? n with
    | none =>
      rw [hn] at h
      cases h
      exact .inl ⟨rfl, n, rfl, Double.ofInt?_eq_none_iff.1 hn⟩
    | some x =>
      rw [hn] at h
      cases h
  | text s =>
    rw [doubleOf] at h
    exact .inr (hnumeral h)
  | bytes bs =>
    rw [doubleOf] at h
    exact .inr (hnumeral h)
  | _ =>
    cases h
    exact .inr rfl

/-! ## Arrays -/

/-- That `v` is a regular nesting, and the first of its innermost items that is not read is beyond
the range. -/
def Overflows (v : Value) : Prop :=
  (∃ shape, HasShape v shape) ∧ ∃ before item after, leaves v = before ++ item :: after ∧
    (∀ w ∈ before, ∃ x, ReadsAs w x) ∧ IsBeyondRange item

/-- `arrayOf v` of a regular nesting has its shape and the doubles of its innermost items. -/
theorem arrayOf_of_hasShape (h : HasShape v shape) :
    arrayOf v = ((leaves v).mapM doubleOf).map fun xs => (shape, xs) := by
  rw [arrayOf, shapeOf_eq_iff.2 h]
  rfl

/-- `arrayOf v` of a value that is no regular nesting is objected to. -/
theorem arrayOf_of_not_hasShape (h : ¬ ∃ shape, HasShape v shape) :
    ∃ b, arrayOf v = .error (.badValue b) := by
  cases hshape : shapeOf v with
  | mk shape whole =>
    cases whole with
    | true => exact absurd ⟨shape, shapeOf_eq_iff.1 hshape⟩ h
    | false =>
      rw [arrayOf, hshape]
      exact ⟨_, rfl⟩

/-- `arrayOf v = .ok (shape, xs)`: `v` is a regular nesting, and its innermost items are read as
`xs`. -/
theorem arrayOf_eq_ok_iff :
    arrayOf v = .ok (shape, xs) ↔ HasShape v shape ∧ List.Forall₂ ReadsAs (leaves v) xs := by
  have hreads : (fun w x => doubleOf w = .ok x) = ReadsAs :=
    funext₂ fun _ _ => propext doubleOf_eq_ok_iff
  constructor
  · intro h
    by_cases hv : ∃ shape, HasShape v shape
    · obtain ⟨s, hs⟩ := hv
      rw [arrayOf_of_hasShape hs] at h
      obtain ⟨ys, hys, heq⟩ := map_eq_ok h
      cases heq
      exact ⟨hs, hreads ▸ forall₂_of_mapM_eq_ok hys⟩
    · obtain ⟨b, hb⟩ := arrayOf_of_not_hasShape hv
      cases hb.symm.trans h
  · rintro ⟨hv, hxs⟩
    rw [arrayOf_of_hasShape hv, mapM_eq_ok_of_forall₂ (hreads ▸ hxs)]
    rfl

/-- `arrayOf v = .ok ([n], xs)`: the arrays of one depth are the doubles of the items of a
sequence. -/
theorem exists_arrayOf_eq_flat_iff :
    (∃ n, arrayOf v = .ok ([n], xs)) ↔
      ∃ items, parts? v = some items ∧ List.Forall₂ ReadsAs items xs := by
  constructor
  · rintro ⟨n, harray⟩
    obtain ⟨hshape, hxs⟩ := arrayOf_eq_ok_iff.1 harray
    obtain ⟨items, hv, -, hitems⟩ := hasShape_singleton_iff.1 hshape
    rw [leaves_of_parts? hv, allLeaves_eq_self hitems] at hxs
    exact ⟨items, hv, hxs⟩
  · rintro ⟨items, hv, hxs⟩
    have hitems : ∀ item ∈ items, parts? item = none :=
      ((List.forall₂_and_left _ _).1 (hxs.imp fun _ _ h => ⟨h.parts?_eq_none, h⟩)).1
    refine ⟨items.length, arrayOf_eq_ok_iff.2 ⟨?_, ?_⟩⟩
    · exact hasShape_singleton_iff.2 ⟨items, hv, rfl, hitems⟩
    · rwa [leaves_of_parts? hv, allLeaves_eq_self hitems]

/-- `arrayOf v = .error .overflow` if `Overflows v`. -/
theorem arrayOf_eq_overflow (h : Overflows v) : arrayOf v = .error .overflow := by
  obtain ⟨⟨shape, hv⟩, before, item, after, hleaves, hbefore, hitem⟩ := h
  have hfail : (leaves v).mapM doubleOf = .error .overflow := by
    refine mapM_eq_error_iff.2 ⟨before, item, after, hleaves, fun w hw => ?_, ?_⟩
    · obtain ⟨x, hx⟩ := hbefore w hw
      exact ⟨x, doubleOf_eq_ok_iff.2 hx⟩
    · exact doubleOf_eq_overflow hitem
  rw [arrayOf_of_hasShape hv, hfail]
  rfl

/-- `arrayOf v = .error e`: where there is no array of a value, the value overflows or is objected
to. -/
theorem arrayOf_eq_error (h : arrayOf v = .error e) :
    e = .overflow ∧ Overflows v ∨ (objection e).className = "ValidationError" := by
  by_cases hv : ∃ shape, HasShape v shape
  · have ⟨shape, hshape⟩ := hv
    rw [arrayOf_of_hasShape hshape] at h
    obtain ⟨before, item, after, hleaves, hbefore, hitem⟩ := mapM_eq_error_iff.1 (map_eq_error h)
    rcases doubleOf_eq_error hitem with ⟨he, hbeyond⟩ | hobjected
    · refine .inl ⟨he, hv, before, item, after, hleaves, fun w hw => ?_, hbeyond⟩
      obtain ⟨x, hx⟩ := hbefore w hw
      exact ⟨x, doubleOf_eq_ok_iff.1 hx⟩
    · exact .inr hobjected
  · obtain ⟨b, hb⟩ := arrayOf_of_not_hasShape hv
    cases hb.symm.trans h
    exact .inr rfl

/-! ## Vectors -/

/-- That `xs` is the vector of `v` for a reading of items: `v` is a sequence of some items, and `xs`
are their doubles in order, which are all finite. -/
def IsVectorOf (Reads : Value → Double → Prop) (v : Value) (xs : List Double) : Prop :=
  ∃ items, parts? v = some items ∧ items ≠ [] ∧ List.Forall₂ Reads items xs ∧
    ∀ x ∈ xs, x.isFinite = true

/-- `IsVectorOf R v xs`: a vector for one reading of items is one for a reading that has it. -/
theorem IsVectorOf.mono {R S : Value → Double → Prop} (h : IsVectorOf R v xs)
    (hRS : ∀ item x, x.isFinite = true → R item x → S item x) : IsVectorOf S v xs := by
  obtain ⟨items, hv, hne, hitems, hfinite⟩ := h
  refine ⟨items, hv, hne, ?_, hfinite⟩
  clear hv hne
  induction hitems with
  | nil => exact .nil
  | cons hx _ ih =>
    obtain ⟨hfirst, hrest⟩ := List.forall_mem_cons.1 hfinite
    exact .cons (hRS _ _ hfirst hx) (ih hrest)

/-- `arrayOf v = .error e`: where there is no array, the objection is to what stood in its way. -/
theorem coerce_of_arrayOf_eq_error (h : arrayOf v = .error e) (scaled : Bool) :
    coerce v scaled = .error (objection e) := by
  rw [coerce, h]
  rfl

/-- `arrayOf v = .ok (shape, xs)`: an array is a vector if it has one depth, some items and no item
that is not finite. -/
theorem coerce_of_arrayOf_eq_ok (h : arrayOf v = .ok (shape, xs)) :
    (shape.length = 1 ∧ xs ≠ [] ∧ (∀ x ∈ xs, x.isFinite = true) ∧
        ∀ scaled, coerce v scaled = if scaled then normalize xs else .ok xs) ∨
      ((shape.length = 1 → xs ≠ [] → ¬ ∀ x ∈ xs, x.isFinite = true) ∧
        ∃ i, ∀ scaled, coerce v scaled = .error (.invalid i)) := by
  -- Three tests, the first that fails decides.
  have hcoerce : ∀ scaled, coerce v scaled =
      if shape.length ≠ 1 then .error (.invalid (.vectorNotFlat shape))
      else if xs.isEmpty then .error (.invalid .vectorEmpty)
      else if !xs.all Double.isFinite then .error (.invalid .vectorNotFinite)
      else if scaled then normalize xs
      else .ok xs := by
    intro scaled
    rw [coerce, h]
    rfl
  simp only [hcoerce]
  split
  · next hflat => exact .inr ⟨fun h => absurd h hflat, _, fun _ => rfl⟩
  · next hflat =>
    split
    · next hempty =>
      exact .inr ⟨fun _ hne => absurd (List.isEmpty_iff.1 hempty) hne, _, fun _ => rfl⟩
    · next hempty =>
      split
      · next hfinite =>
        refine .inr ⟨fun _ _ hall => ?_, _, fun _ => rfl⟩
        rw [List.all_eq_true.2 hall] at hfinite
        cases hfinite
      · next hfinite =>
        refine .inl ⟨not_not.1 hflat, mt List.isEmpty_iff.2 hempty, ?_, fun _ => rfl⟩
        exact List.all_eq_true.1 (by simpa using hfinite)

/-- `coerce v false = .ok xs ↔ IsVectorOf ReadsAs v xs`: the vectors that are taken: those whose
items are read as finite doubles. -/
theorem coerce_eq_ok_iff : coerce v false = .ok xs ↔ IsVectorOf ReadsAs v xs := by
  constructor
  · intro h
    cases harray : arrayOf v with
    | error e => cases (coerce_of_arrayOf_eq_error harray false).symm.trans h
    | ok array =>
      obtain ⟨shape, ys⟩ := array
      rcases coerce_of_arrayOf_eq_ok harray with ⟨hflat, hne, hfinite, hys⟩ | ⟨-, i, hi⟩
      · cases (hys false).symm.trans h
        obtain ⟨n, rfl⟩ := List.length_eq_one_iff.1 hflat
        obtain ⟨items, hv, hxs⟩ := exists_arrayOf_eq_flat_iff.1 ⟨n, harray⟩
        refine ⟨items, hv, ?_, hxs, hfinite⟩
        -- An empty array has no items.
        rintro rfl
        exact hne (List.forall₂_nil_left_iff.1 hxs)
      · cases (hi false).symm.trans h
  · rintro ⟨items, hv, hne, hxs, hfinite⟩
    obtain ⟨n, harray⟩ := exists_arrayOf_eq_flat_iff.2 ⟨items, hv, hxs⟩
    rcases coerce_of_arrayOf_eq_ok harray with ⟨-, -, -, h⟩ | ⟨hnot, -⟩
    · exact h false
    · refine absurd hfinite (hnot rfl ?_)
      rintro rfl
      exact hne (List.forall₂_nil_right_iff.1 hxs)

/-- `coerce v scaled = .error .overflow` if `Overflows v`. -/
theorem coerce_eq_overflow (h : Overflows v) (scaled : Bool) :
    coerce v scaled = .error .overflow :=
  coerce_of_arrayOf_eq_error (arrayOf_eq_overflow h) scaled

/-- `coerce v false = .error e`: A value that is no vector is objected to, unless it overflows. -/
theorem coerce_eq_error (h : coerce v false = .error e) :
    e = .overflow ∧ Overflows v ∨ e.className = "ValidationError" := by
  cases harray : arrayOf v with
  | error e' =>
    cases (coerce_of_arrayOf_eq_error harray false).symm.trans h
    rcases arrayOf_eq_error harray with ⟨rfl, hover⟩ | hobjected
    · exact .inl ⟨rfl, hover⟩
    · exact .inr hobjected
  | ok array =>
    obtain ⟨shape, ys⟩ := array
    rcases coerce_of_arrayOf_eq_ok harray with ⟨-, -, -, hys⟩ | ⟨-, i, hi⟩
    · cases (hys false).symm.trans h
    · cases (hi false).symm.trans h
      exact .inr rfl

/-- `coerce v true = coerce v false >>= normalize`: A scaled vector is one that is taken and then
scaled. -/
theorem coerce_true (v : Value) : coerce v true = coerce v false >>= normalize := by
  cases harray : arrayOf v with
  | error e =>
    rw [coerce_of_arrayOf_eq_error harray, coerce_of_arrayOf_eq_error harray]
    rfl
  | ok array =>
    obtain ⟨shape, xs⟩ := array
    rcases coerce_of_arrayOf_eq_ok harray with ⟨-, -, -, h⟩ | ⟨-, i, h⟩
    · rw [h, h]
      rfl
    · rw [h, h]
      rfl

/-! ## Vectors of numbers -/

/-- Of `v` only vectors of numbers are taken: it has a vector exactly if it is a sequence of some
numbers with finite doubles, which are then its vector, and every failure objects to it. -/
structure TakesNumbersOnly (v : Value) : Prop where
  accepts : ∀ xs, coerce v false = .ok xs ↔ IsVectorOf IsNumber v xs
  objects : ∀ e, coerce v false = .error e → e.className = "ValidationError"

/-- That `v` has a vector, and some of its items are numerals. -/
def WritesNumbers (v : Value) : Prop :=
  ∃ items xs, parts? v = some items ∧ IsVectorOf ReadsAs v xs ∧
    ∃ item ∈ items, ∃ x, IsNumeral item x

/-- A vector of numbers is one of items that are read. -/
theorem IsVectorOf.readsAs (h : IsVectorOf IsNumber v xs) : IsVectorOf ReadsAs v xs :=
  h.mono fun _ _ _ => .number

/-- `IsVectorOf IsNumber v xs`: A vector without numerals among its items is one of numbers: null
has no finite double. -/
theorem IsVectorOf.isNumber (h : IsVectorOf ReadsAs v xs) (hnot : ¬ WritesNumbers v) :
    IsVectorOf IsNumber v xs := by
  obtain ⟨items, hv, hne, hxs, hfinite⟩ := h
  have hitems : ∀ item ∈ items, ∀ y, ¬ IsNumeral item y := by
    intro item hitem y hy
    exact hnot ⟨items, xs, hv, ⟨items, hv, hne, hxs, hfinite⟩, item, hitem, y, hy⟩
  have hread : IsVectorOf (fun item x => (∀ y, ¬ IsNumeral item y) ∧ ReadsAs item x) v xs :=
    ⟨items, hv, hne, (List.forall₂_and_left _ _).2 ⟨hitems, hxs⟩, hfinite⟩
  refine hread.mono ?_
  rintro item x hx ⟨hnumeral, h | h | _⟩
  · exact h
  · exact absurd h (hnumeral x)
  · cases hx

/-- `¬ Overflows v`: if only numbers are taken of a value, nothing in it overflows. -/
theorem TakesNumbersOnly.not_overflows (h : TakesNumbersOnly v) : ¬ Overflows v := by
  intro hover
  have hclass := h.objects _ (coerce_eq_overflow hover false)
  exact absurd hclass (by decide)

/-- `¬ WritesNumbers v`: if only numbers are taken of a value, it has no numerals. -/
theorem TakesNumbersOnly.not_writesNumbers (h : TakesNumbersOnly v) : ¬ WritesNumbers v := by
  rintro ⟨items, xs, hv, hxs, item, hitem, x, hx⟩
  obtain ⟨items', hv', -, hnumbers, -⟩ := (h.accepts xs).1 (coerce_eq_ok_iff.2 hxs)
  cases hv.symm.trans hv'
  have hnone : ∀ w ∈ items, ∀ y, ¬ IsNumeral w y :=
    ((List.forall₂_and_left _ _).1 (hnumbers.imp fun _ _ h => ⟨fun _ => h.not_isNumeral, h⟩)).1
  exact hnone item hitem x hx

/-- Every value has a vector `coerce v false` exactly if it is a sequence of some items that are
read as finite doubles, which are then its vector; it overflows exactly if it comes to an item
beyond the range, and is objected to otherwise. So `TakesNumbersOnly v`, only vectors of numbers are
taken of it, exactly if it neither overflows nor has a vector with numerals among its items. -/
theorem coerce_takes_numbers_iff (v : Value) :
    (∀ xs, coerce v false = .ok xs ↔ IsVectorOf ReadsAs v xs) ∧
      (coerce v false = .error .overflow ↔ Overflows v) ∧
      (∀ e, coerce v false = .error e → e = .overflow ∨ e.className = "ValidationError") ∧
      (TakesNumbersOnly v ↔ ¬ Overflows v ∧ ¬ WritesNumbers v) := by
  -- Every failure is an overflow of the value or a validation error, and never both.
  have hobjects : ∀ e, coerce v false = .error e →
      e = .overflow ∧ Overflows v ∨ e.className = "ValidationError" := fun _ => coerce_eq_error
  refine ⟨fun _ => coerce_eq_ok_iff, ⟨fun h => ?_, fun h => coerce_eq_overflow h false⟩,
    fun e he => (hobjects e he).imp_left And.left, ?_⟩
  · rcases hobjects _ h with ⟨-, hover⟩ | hclass
    · exact hover
    · exact absurd hclass (by decide)
  · constructor
    · exact fun h => ⟨h.not_overflows, h.not_writesNumbers⟩
    · rintro ⟨hover, hwrites⟩
      refine ⟨fun xs => ?_, fun e he => ?_⟩
      · rw [coerce_eq_ok_iff]
        exact ⟨fun h => h.isNumber hwrites, IsVectorOf.readsAs⟩
      · rcases hobjects e he with ⟨-, h⟩ | hclass
        · exact absurd h hover
        · exact hclass

/-- The numeral of one and a half is taken for that number, and a whole number of 401 digits is an
overflow that nothing objects to. -/
theorem not_takesNumbersOnly_numeral_tooLarge :
    coerce (.list [.text "1.5"]) false = .ok [Double.ofRatio false 3 2] ∧
      ¬ TakesNumbersOnly (.list [.text "1.5"]) ∧
      coerce (.list [.int (10 ^ 400)]) false = .error .overflow ∧
      ¬ TakesNumbersOnly (.list [.int (10 ^ 400)]) := by
  have hread : IsNumeral (.text "1.5") (Double.ofRatio false 3 2) := .text (by decide +kernel)
  have hvector : IsVectorOf ReadsAs (.list [.text "1.5"]) [Double.ofRatio false 3 2] :=
    ⟨_, rfl, List.cons_ne_nil _ _, .cons (.numeral hread) .nil,
      List.forall_mem_singleton.2 (by decide +kernel)⟩
  have hover : Overflows (.list [.int (10 ^ 400)]) :=
    ⟨⟨[1], .nested rfl (List.cons_ne_nil _ _) (List.forall_mem_singleton.2 (.item rfl))⟩,
      [], .int (10 ^ 400), [], rfl, fun _ h => (nomatch h), 10 ^ 400, rfl, by decide +kernel⟩
  refine ⟨coerce_eq_ok_iff.2 hvector, fun h => h.not_writesNumbers ?_,
    coerce_eq_overflow hover false, fun h => h.not_overflows hover⟩
  exact ⟨_, _, rfl, hvector, _, List.mem_singleton_self _, _, hread⟩

end ObjectStore.Vector
