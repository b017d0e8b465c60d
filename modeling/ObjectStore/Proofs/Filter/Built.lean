import Mathlib
import ObjectStore.Filter.Combine
import ObjectStore.Proofs.Filter.Constructible

/-! # The ways to build a filter

Filters are made by the constructors of the three kinds of nodes, by conditions on properties and on
the identifier, by joining filters that there are already, and from criteria. These ways can be
nested at will; whatever values they are given, what they make is well formed.

* `Filter.Built`: the filters that can be built.
* `Filter.Built.wellFormed`: that they are well formed. -/

namespace ObjectStore

/-- The filters among the items of `v`. -/
def Value.filters (v : Value) : List Filter :=
  (v.items?.getD []).filterMap fun
    | filter f => some f
    | _ => none

namespace Filter

/-- The filters that can be built by some nesting of the ways to build one. -/
inductive Built : Filter → Prop
  | compare {property operator value : Value} {f : Filter}
      (h : Filter.compare property operator value = .ok f) : Built f
  | checkNull {property isNull : Value} {f : Filter}
      (h : Filter.checkNull property isNull = .ok f) : Built f
  | join {operands kind : Value} {f : Filter} (hoperands : ∀ g ∈ operands.filters, Built g)
      (h : Filter.join operands kind = .ok f) : Built f
  | property {name : Value} {p : PropertyCondition} {method : String} {args : List Value}
      {f : Filter} (hp : PropertyCondition.named name = .ok p) (h : p.call method args = .ok f) :
      Built f
  | identifier {method : String} {args : List Value} {f : Filter}
      (h : IdCondition.call method args = .ok f) : Built f
  | allOf {operands : Value} {f : Filter} (hoperands : ∀ g ∈ operands.filters, Built g)
      (h : Filter.allOf operands = .ok f) : Built f
  | anyOf {operands : Value} {f : Filter} (hoperands : ∀ g ∈ operands.filters, Built g)
      (h : Filter.anyOf operands = .ok f) : Built f
  /-- Two values joined by their sign, one of which is a filter. -/
  | combine {c : Connective} {v w : Value} {f : Filter} (hv : ∀ g, v = .filter g → Built g)
      (hw : ∀ g, w = .filter g → Built g) (h : c.combine v w = .ok (.filter f)) : Built f
  | criteria {v : Value} {f : Filter} (h : Filter.ofCriteria v = .ok (some f)) : Built f

/-! ## Joined filters -/

/-- `vs = fs.map .filter` if the operands `vs` are accepted as the filters `fs`. -/
theorem eq_map_of_operandFilters {builder : String} {vs : List Value} {fs : List Filter}
    (h : operandFilters builder vs = .ok fs) : vs = fs.map .filter := by
  induction vs generalizing fs with
  | nil =>
    cases h
    rfl
  | cons v vs ih =>
    cases v with
    | filter f =>
      obtain ⟨gs, hgs, rfl⟩ := map_eq_ok h
      rw [List.map_cons, ← ih hgs]
    | _ => cases h

/-- `v.filters = fs`: joined filters are those among the items of the value that they are given by,
at least one. -/
theorem operandsOf_eq_ok {builder : String} {v : Value} {fs : List Filter}
    (h : operandsOf builder v = .ok fs) : fs ≠ [] ∧ v.filters = fs := by
  obtain ⟨items, hitems, hne, hfilters⟩ := exists_items_of_operandsOf h
  refine ⟨operandFilters_ne_nil hne hfilters, ?_⟩
  rw [Value.filters, hitems, Option.getD_some, eq_map_of_operandFilters hfilters,
    List.filterMap_map]
  exact List.filterMap_some

/-- `joinBy` makes a well-formed filter of well-formed ones. -/
theorem joinBy_wellFormed {kind : Connective} {operands : Value} {f : Filter}
    (hoperands : ∀ g ∈ operands.filters, WellFormed g) (h : joinBy kind operands = .ok f) :
    f.WellFormed := by
  obtain ⟨fs, hfs, rfl⟩ := map_eq_ok h
  obtain ⟨hne, rfl⟩ := operandsOf_eq_ok hfs
  exact .conjunction kind hne hoperands

/-- `Filter.join` makes a well-formed filter of well-formed ones. -/
theorem join_wellFormed {operands kind : Value} {f : Filter}
    (hoperands : ∀ g ∈ operands.filters, WellFormed g) (h : Filter.join operands kind = .ok f) :
    f.WellFormed := by
  obtain ⟨c, -, h⟩ := bind_eq_ok h
  exact joinBy_wellFormed hoperands h

/-- `c.combined? v w`: what can be joined without being filters is no filter. -/
theorem combined_ne_filter {c : Connective} {v w : Value} {f : Filter} :
    c.combined? v w ≠ some (.filter f) := by
  intro h
  unfold Connective.combined? at h
  split at h
  · cases h
  · obtain ⟨_, -, hys⟩ := Option.map_eq_some_iff.1 h
    cases hys
  · obtain ⟨_, -, hys⟩ := Option.map_eq_some_iff.1 h
    cases hys
  · split at h <;> cases h
  · obtain ⟨a, -, h⟩ := Option.bind_eq_some_iff.1 h
    obtain ⟨b, -, h⟩ := Option.bind_eq_some_iff.1 h
    cases h

/-- `c.combine v w`: of two values joined by their sign, both have to be filters for the result to
be one. -/
theorem combine_wellFormed {c : Connective} {v w : Value} {f : Filter}
    (hv : ∀ g, v = .filter g → g.WellFormed) (hw : ∀ g, w = .filter g → g.WellFormed)
    (h : c.combine v w = .ok (.filter f)) : f.WellFormed := by
  unfold Connective.combine at h
  split at h
  · next g =>
    obtain ⟨k, hk, hkf⟩ := map_eq_ok h
    cases hkf
    -- The second value is joined as it is: if it is no filter, nothing is made.
    refine joinBy_wellFormed (fun a ha => ?_) hk
    have ha : a = g ∨ w = .filter a := by
      cases w <;> simpa [Value.filters, Value.items?, eq_comm] using ha
    rcases ha with rfl | ha
    · exact hv a rfl
    · exact hw a ha
  · next hnot =>
    split at h
    · next joined hjoined =>
      cases h
      exact absurd hjoined combined_ne_filter
    · cases h

/-! ## Conditions and criteria -/

/-- A condition on a property, by `p.call`, is a well-formed filter, whichever method makes it. -/
theorem call_wellFormed {p : PropertyCondition} {method : String} {args : List Value} {f : Filter}
    (h : p.call method args = .ok f) : f.WellFormed := by
  unfold PropertyCondition.call at h
  split at h
  · split at h
    · exact checkNull_wellFormed h
    · exact checkNull_wellFormed h
    · cases h
  · split at h
    · cases h
    · exact compare_wellFormed h
    · cases h

/-- A condition on the identifier, by `IdCondition.call`, is a well-formed filter, whichever method
makes it. -/
theorem idCall_wellFormed {method : String} {args : List Value} {f : Filter}
    (h : IdCondition.call method args = .ok f) : f.WellFormed := by
  have hcompare : ∀ {op v}, IdCondition.compare op v = .ok f → f.WellFormed := by
    intro op v h
    obtain ⟨id, -, h⟩ := bind_eq_ok h
    exact compare_wellFormed h
  unfold IdCondition.call at h
  split at h
  · exact hcompare h
  · exact hcompare h
  · obtain ⟨ids, -, h⟩ := bind_eq_ok h
    obtain ⟨_, -, h⟩ := bind_eq_ok h
    exact compare_wellFormed h
  all_goals cases h

/-- `criterion property value` makes a well-formed filter. -/
theorem criterion_wellFormed {property value : Value} {f : Filter}
    (h : criterion property value = .ok f) : f.WellFormed := by
  obtain ⟨name, -, h⟩ := bind_eq_ok h
  split at h
  · cases h
    exact .nullCheck name true
  · exact compare_wellFormed h

/-- `ofCriteria v` makes a well-formed filter, if it makes one. -/
theorem ofCriteria_wellFormed {v : Value} {f : Filter} (h : ofCriteria v = .ok (some f)) :
    f.WellFormed := by
  unfold ofCriteria at h
  split at h
  · cases h
  · obtain ⟨fs, hfs, hsome⟩ := map_eq_ok h
    have hall : ∀ g ∈ fs, WellFormed g := by
      intro g hg
      have hrel := forall₂_of_mapM_eq_ok hfs
      obtain ⟨i, hi, rfl⟩ := List.getElem_of_mem hg
      exact criterion_wellFormed (hrel.get (by rw [hrel.length_eq]; exact hi) hi)
    -- No criteria make no filter, one makes its own, and more are joined.
    unfold ofConditions at hsome
    split at hsome
    · cases hsome
    · cases hsome
      exact hall _ (List.mem_singleton_self _)
    · next hne hone =>
      cases hsome
      exact .conjunction .and hne hall
  · cases h

/-- `f.Built → f.WellFormed`: whatever is built is well formed. -/
theorem Built.wellFormed {f : Filter} (hf : f.Built) : f.WellFormed := by
  induction hf with
  | compare h => exact compare_wellFormed h
  | checkNull h => exact checkNull_wellFormed h
  | join _ h ih => exact join_wellFormed ih h
  | property _ h => exact call_wellFormed h
  | identifier h => exact idCall_wellFormed h
  | allOf _ h ih => exact joinBy_wellFormed ih h
  | anyOf _ h ih => exact joinBy_wellFormed ih h
  | combine _ _ h ihv ihw => exact combine_wellFormed ihv ihw h
  | criteria h => exact ofCriteria_wellFormed h

end Filter

end ObjectStore
