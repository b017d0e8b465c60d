import Mathlib
import ObjectStore.Filter.Build
import ObjectStore.Proofs.Except

/-! # Filters that can be built

Whatever values are given to the constructors of filters, what they return is well formed: the
operands fit their operators, doubles are finite, and joined filters are at least one.
`Constructible` are the trees that the three constructors make, `WellFormed` says what is known of
them. -/

namespace ObjectStore

/-! ## Well-formed filters -/

/-- That a literal is finite if it is a double. -/
def Literal.IsFinite : Literal → Prop
  | double x => x.isFinite = true
  | _ => True

/-- That an operand fits an operator: a membership test takes at least one literal, all of one kind,
every other operator a single one, and a pattern match a text. -/
inductive Operand.Fits : Operator → Operand → Prop
  | single {op : Operator} {v : Literal} (hop : op ≠ .containsAny)
      (hlike : op = .like → v.tag = .text) (hv : v.IsFinite) : Fits op (.single v)
  | many {vs : List Literal} (tag : Tag) (hne : vs ≠ []) (htag : ∀ v ∈ vs, v.tag = tag)
      (hvs : ∀ v ∈ vs, v.IsFinite) : Fits .containsAny (.many vs)

namespace Filter

/-- That a filter is such as the constructors return. -/
inductive WellFormed : Filter → Prop
  | comparison (property : String) {op : Operator} {v : Operand} (hop : op ≠ .isNull)
      (hv : v.Fits op) : WellFormed (.comparison property op v)
  | nullCheck (property : String) (isNull : Bool) : WellFormed (.nullCheck property isNull)
  | conjunction (kind : Connective) {fs : List Filter} (hne : fs ≠ [])
      (hfs : ∀ f ∈ fs, WellFormed f) : WellFormed (.conjunction kind fs)

/-- The trees that the three constructors of filters make, from values of any kind. -/
inductive Constructible : Filter → Prop
  | compare {property operator value : Value} {f : Filter}
      (h : Filter.compare property operator value = .ok f) : Constructible f
  | checkNull {property isNull : Value} {f : Filter}
      (h : Filter.checkNull property isNull = .ok f) : Constructible f
  | join {operands kind : Value} {c : Connective} {fs : List Filter}
      (h : Filter.join operands kind = .ok (.conjunction c fs))
      (hfs : ∀ f ∈ fs, Constructible f) : Constructible (.conjunction c fs)

/-! ## Checked arguments -/

/-- `checked r = .ok x` only if `r = .ok x`: a check that is passed is passed on. -/
theorem checked_eq_ok {α : Type} {r : Except Invalid α} {x : α} (h : checked r = .ok x) :
    r = .ok x := by
  cases r with
  | error i => cases h
  | ok y =>
    cases h
    rfl

/-- `Validate.literal place v = .ok l`: a literal that has been accepted is finite if it is a
double. -/
theorem isFinite_of_literal {place : String} {v : Value} {l : Literal}
    (h : Validate.literal place v = .ok l) : l.IsFinite := by
  unfold Validate.literal at h
  split at h
  · cases h
  · split at h
    · cases h
    · next x _ =>
      split at h
      · next hx =>
        cases h
        exact hx
      · cases h
    · next hnot _ =>
      -- what is no double has nothing to be finite
      cases h
      cases l with
      | double x => exact absurd rfl (hnot x)
      | _ => trivial

/-- `a.tag = b.tag`: literals of at most one name of their kinds are of one kind. -/
theorem tag_eq_of_tagNames {ls : List Literal} (h : ¬ 1 < (tagNames ls).length) {a b : Literal}
    (ha : a ∈ ls) (hb : b ∈ ls) : a.tag = b.tag := by
  have hmem : ∀ l ∈ ls, l.tag.name ∈ tagNames ls := by
    intro l hl
    rw [tagNames, List.mem_mergeSort, List.mem_eraseDups]
    exact List.mem_map_of_mem hl
  have hone : ∀ names : List String, ¬ 1 < names.length → ∀ x ∈ names, ∀ y ∈ names, x = y := by
    intro names hnames x hx y hy
    match names with
    | [] => cases hx
    | [n] => rw [List.mem_singleton.1 hx, List.mem_singleton.1 hy]
    | _ :: _ :: _ => exact absurd (by simp) hnames
  exact Tag.name_inj (hone _ h _ (hmem a ha) _ (hmem b hb))

/-- `candidates v = .ok ls`: candidates are at least one, all of one kind, and finite. -/
theorem candidates_fit {v : Value} {ls : List Literal} (h : candidates v = .ok ls) :
    Operand.Fits .containsAny (.many ls) := by
  unfold candidates at h
  obtain ⟨items, -, h⟩ := bind_eq_ok h
  split at h
  · cases h
  · next hitems =>
    obtain ⟨literals, hliterals, h⟩ := bind_eq_ok h
    dsimp only at h
    split at h
    · cases h
    · next hnames =>
      cases h
      -- What is left are the candidates that passed all three tests.
      have hall := forall₂_of_mapM_eq_ok (checked_eq_ok hliterals)
      have hne : ls ≠ [] := by
        rintro rfl
        rw [List.forall₂_nil_right_iff.1 hall] at hitems
        exact hitems rfl
      obtain ⟨l, hl⟩ := List.exists_mem_of_ne_nil ls hne
      refine .many l.tag hne (fun a ha => tag_eq_of_tagNames hnames ha hl) ?_
      intro a ha
      obtain ⟨i, hi, rfl⟩ := List.getElem_of_mem ha
      exact isFinite_of_literal (hall.get (by rw [hall.length_eq]; exact hi) hi)

/-- `operandOf property op v`: the operand that a value gives for an operator fits it. -/
theorem operandOf_fits {property : String} {op : Operator} {v : Value} {operand : Operand}
    (h : operandOf property op v = .ok operand) : operand.Fits op := by
  have hsingle : ∀ op, op ≠ .containsAny → op ≠ .like →
      (checked (Validate.literal ("value for '" ++ property ++ "'") v)).map .single = .ok operand →
        operand.Fits op := by
    intro op hop hlike h
    obtain ⟨l, hl, rfl⟩ := map_eq_ok h
    exact .single hop (fun h => absurd h hlike) (isFinite_of_literal (checked_eq_ok hl))
  cases op with
  | containsAny =>
    obtain ⟨ls, hls, rfl⟩ := map_eq_ok h
    exact candidates_fit hls
  | like =>
    cases v with
    | text pattern =>
      cases h
      exact .single (by decide) (fun _ => rfl) trivial
    | _ => cases h
  | _ => exact hsingle _ (by decide) (by decide) h

/-- `Filter.compare` makes a well-formed filter. -/
theorem compare_wellFormed {property operator value : Value} {f : Filter}
    (h : Filter.compare property operator value = .ok f) : f.WellFormed := by
  unfold Filter.compare at h
  obtain ⟨name, -, h⟩ := bind_eq_ok h
  obtain ⟨op, -, h⟩ := bind_eq_ok h
  split at h
  · cases h
  · next hop =>
    obtain ⟨operand, hoperand, h⟩ := bind_eq_ok h
    cases h
    exact .comparison name hop (operandOf_fits hoperand)

/-- `Filter.checkNull` makes a well-formed filter. -/
theorem checkNull_wellFormed {property isNull : Value} {f : Filter}
    (h : Filter.checkNull property isNull = .ok f) : f.WellFormed := by
  unfold Filter.checkNull at h
  obtain ⟨name, -, h⟩ := bind_eq_ok h
  split at h
  · cases h
    exact .nullCheck name _
  · cases h

/-- Of some operands that are accepted as filters there is one at least. -/
theorem operandFilters_ne_nil {builder : String} {vs : List Value} {fs : List Filter}
    (hvs : vs ≠ []) (h : operandFilters builder vs = .ok fs) : fs ≠ [] := by
  unfold operandFilters at h
  split at h
  · exact absurd rfl hvs
  · obtain ⟨gs, -, rfl⟩ := map_eq_ok h
    exact List.cons_ne_nil _ _
  · cases h

/-- `operandsOf builder v = .ok fs`: operands are the items of the value that they are given by, at
least one, and all filters. -/
theorem exists_items_of_operandsOf {builder : String} {v : Value} {fs : List Filter}
    (h : operandsOf builder v = .ok fs) :
    ∃ items, v.items? = some items ∧ items ≠ [] ∧ operandFilters builder items = .ok fs := by
  unfold operandsOf at h
  split at h
  · cases h
  · cases h
  · split at h
    · cases h
    · next items hitems =>
      split at h
      · cases h
      · next hne => exact ⟨items, hitems, by simpa using hne, h⟩

/-- Joined filters are at least one. -/
theorem join_ne_nil {operands kind : Value} {c : Connective} {fs : List Filter}
    (h : Filter.join operands kind = .ok (.conjunction c fs)) : fs ≠ [] := by
  unfold Filter.join at h
  obtain ⟨d, -, h⟩ := bind_eq_ok h
  obtain ⟨gs, hgs, heq⟩ := map_eq_ok h
  cases heq
  obtain ⟨items, -, hne, hfilters⟩ := exists_items_of_operandsOf hgs
  exact operandFilters_ne_nil hne hfilters

/-- `f.Constructible → f.WellFormed`: what the constructors make is well formed. -/
theorem Constructible.wellFormed {f : Filter} (hf : f.Constructible) : f.WellFormed := by
  induction hf with
  | compare h => exact compare_wellFormed h
  | checkNull h => exact checkNull_wellFormed h
  | join h _ ih => exact .conjunction _ (join_ne_nil h) ih

end Filter

end ObjectStore
