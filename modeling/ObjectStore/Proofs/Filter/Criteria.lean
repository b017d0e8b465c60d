import Mathlib
import ObjectStore.Proofs.Filter.Grammar

/-! # Criteria

A mapping from properties to expected values is made into a filter entry by entry. Each entry asks
for one condition, whatever the others are: the null test if null is expected, and else equality
with the literal that is. No conditions make no filter, one makes itself, and more are joined.

* `Filter.Asks`: the condition that an entry asks for.
* `Filter.conditions`: the conditions that a filter of criteria was made of.
* `Filter.ofCriteria_dict_eq_ok_iff`: the filter of some criteria by their conditions.
* `Filter.ofCriteria_append`: criteria that are followed by others. -/

namespace ObjectStore.Filter

/-! ## One criterion -/

/-- The condition that an entry asks for: the null test for null, and else the comparison with a
literal. An entry whose property is blank or no text, or whose value is neither, asks for none. -/
inductive Asks : Value × Value → Filter → Prop
  | null {name : String} (hname : Text.allBlank name.toList = false) :
      Asks (.text name, .null) (.nullCheck name true)
  | equal {name : String} {l : Literal} (hname : Text.allBlank name.toList = false)
      (hl : l.IsFinite) : Asks (.text name, .ofLiteral l) (.comparison name .equal (.single l))

/-- `criterion (.text name) v`: once its property is accepted, an expected value other than null is
compared with. -/
theorem criterion_eq_map {name : String} (hname : Text.allBlank name.toList = false) {v : Value}
    (hv : v ≠ .null) :
    criterion (.text name) v =
      (checked (Validate.literal ("value for '" ++ name ++ "'") v)).map
        fun l => comparison name .equal (.single l) := by
  have hcompare : criterion (.text name) v =
      Filter.compare (.text name) (.text Operator.equal.name) v := by
    have hproperty : checked (Validate.propertyName (.text name)) = .ok name := by
      rw [propertyName_eq_ok_iff.mpr ⟨rfl, hname⟩]
      rfl
    rw [criterion, hproperty]
    cases v with
    | null => exact absurd rfl hv
    | _ => rfl
  have hoperand : operandOf name .equal v =
      (checked (Validate.literal ("value for '" ++ name ++ "'") v)).map .single := rfl
  rw [hcompare, compare_eq_map hname (by decide), hoperand]
  cases checked (Validate.literal ("value for '" ++ name ++ "'") v) <;> rfl

/-- `criterion (.text name) .null = .ok (nullCheck name true)`: null asks whether a property is
null. -/
theorem criterion_null {name : String} (hname : Text.allBlank name.toList = false) :
    criterion (.text name) .null = .ok (nullCheck name true) := by
  rw [criterion, propertyName_eq_ok_iff.mpr ⟨rfl, hname⟩]
  rfl

/-- `criterion property v = .ok f ↔ Asks (property, v) f`: what an accepted entry gives is the
condition that it asks for. -/
theorem criterion_eq_ok_iff {property v : Value} {f : Filter} :
    criterion property v = .ok f ↔ Asks (property, v) f := by
  constructor
  · intro h
    obtain ⟨name, hproperty, -⟩ := bind_eq_ok h
    obtain ⟨rfl, hname⟩ := propertyName_eq_ok_iff.mp (checked_eq_ok hproperty)
    -- `null` asks for the null test, and everything else to be equal to a literal.
    by_cases hv : v = .null
    · subst hv
      rw [criterion_null hname] at h
      cases h
      exact .null hname
    · rw [criterion_eq_map hname hv] at h
      obtain ⟨l, hl, rfl⟩ := map_eq_ok h
      obtain ⟨rfl, hfinite⟩ := Validate.literal_eq_ok_iff.mp (checked_eq_ok hl)
      exact .equal hname hfinite
  · intro h
    cases h with
    | null hname => exact criterion_null hname
    | @equal name l hname hl =>
      have hne : Value.ofLiteral l ≠ .null := by cases l <;> simp [Value.ofLiteral]
      rw [criterion_eq_map hname hne, Validate.literal_eq_ok_iff.mpr ⟨rfl, hl⟩]
      rfl

/-- `criterion property v = .error e`: an entry that asks for no condition is objected to. -/
theorem className_of_criterion {property v : Value} {e : Failure}
    (h : criterion property v = .error e) : e.className = "ValidationError" := by
  rcases bind_eq_error h with hproperty | ⟨name, hproperty, -⟩
  · obtain ⟨i, rfl⟩ := checked_eq_error hproperty
    rfl
  · obtain ⟨rfl, hname⟩ := propertyName_eq_ok_iff.mp (checked_eq_ok hproperty)
    by_cases hv : v = .null
    · subst hv
      rw [criterion_null hname] at h
      cases h
    · rw [criterion_eq_map hname hv] at h
      obtain ⟨i, rfl⟩ := checked_eq_error (map_eq_error h)
      rfl

/-! ## Conditions in order -/

/-- The conditions that a filter of criteria was made of: none, those that it joins, or itself. -/
def conditions : Option Filter → List Filter
  | none => []
  | some (.conjunction _ fs) => fs
  | some f => [f]

variable {c d : Entries} {f g : Option Filter} {fs : List Filter}

/-- `Asks e f`: A condition that is asked for joins no others. -/
theorem Asks.ne_conjunction {e : Value × Value} {f : Filter} (h : Asks e f) (kind : Connective)
    (gs : List Filter) : f ≠ .conjunction kind gs := by
  cases h <;> exact nofun

/-- `conditions (ofConditions fs) = fs`: the conditions of a filter of criteria are those that the
entries ask for. -/
theorem conditions_ofConditions (h : List.Forall₂ Asks c fs) :
    conditions (ofConditions fs) = fs := by
  cases h with
  | nil => rfl
  | @cons e f c fs hf hfs =>
    cases hfs with
    | nil =>
      cases f with
      | conjunction kind gs => exact absurd rfl (hf.ne_conjunction kind gs)
      | _ => rfl
    | cons => rfl

/-- `ofConditions fs` joins its conditions exactly if they are two at least, and then all of them
are asked for. -/
theorem ofConditions_eq_conjunction_iff (h : List.Forall₂ Asks c fs) {kind : Connective}
    {gs : List Filter} :
    ofConditions fs = some (.conjunction kind gs) ↔ kind = .and ∧ gs = fs ∧ 2 ≤ c.length := by
  cases h with
  | nil => simp [ofConditions]
  | @cons e f c fs hf hfs =>
    cases hfs with
    | nil => simp [ofConditions, hf.ne_conjunction kind gs]
    | cons => simp [ofConditions, eq_comm]

/-! ## Criteria -/

/-- `ofCriteria (.dict c) = .ok f`: the filter of some criteria is made of the conditions that they
ask for, in their order. -/
theorem ofCriteria_dict_eq_ok_iff :
    ofCriteria (.dict c) = .ok f ↔ ∃ fs, List.Forall₂ Asks c fs ∧ ofConditions fs = f := by
  constructor
  · intro h
    obtain ⟨fs, hfs, rfl⟩ := map_eq_ok h
    exact ⟨fs, (forall₂_of_mapM_eq_ok hfs).imp fun _ _ h => criterion_eq_ok_iff.mp h, rfl⟩
  · rintro ⟨fs, hfs, rfl⟩
    rw [ofCriteria, mapM_eq_ok_of_forall₂ (hfs.imp fun _ _ h => criterion_eq_ok_iff.mpr h)]
    rfl

/-- `ofCriteria (.dict c)` accepts criteria entry by entry. -/
theorem exists_ofCriteria_iff :
    (∃ f, ofCriteria (.dict c) = .ok f) ↔ ∀ e ∈ c, ∃ f, Asks e f := by
  have hasks : ∀ e : Value × Value, (∃ f, Asks e f) ↔ ∃ f, criterion e.1 e.2 = .ok f :=
    fun _ => exists_congr fun _ => criterion_eq_ok_iff.symm
  simp only [hasks]
  rw [← exists_mapM_eq_ok_iff]
  constructor
  · rintro ⟨f, h⟩
    obtain ⟨fs, hfs, -⟩ := map_eq_ok h
    exact ⟨fs, hfs⟩
  · rintro ⟨fs, hfs⟩
    exact ⟨ofConditions fs, by rw [ofCriteria, hfs]; rfl⟩

/-- `ofCriteria (.dict c) = .error e`: criteria that are not accepted are objected to. -/
theorem className_of_ofCriteria {e : Failure} (h : ofCriteria (.dict c) = .error e) :
    e.className = "ValidationError" := by
  obtain ⟨entry, -, hentry⟩ := exists_of_mapM_eq_error (map_eq_error h)
  exact className_of_criterion hentry

/-- Criteria `c ++ d` are accepted exactly if `c` and `d` are, and their conditions are those of `c`
and then those of `d`. What is not accepted is objected to, and what is accepted are criteria whose
entries all ask for a condition. These are the conditions of the filter, in order, and they are
joined, by `and`, exactly if there are two entries at least. -/
theorem ofCriteria_append (c d : Entries) :
    ((∃ f, ofCriteria (.dict (c ++ d)) = .ok f) ↔
        (∃ f, ofCriteria (.dict c) = .ok f) ∧ ∃ g, ofCriteria (.dict d) = .ok g) ∧
      (∀ f g, ofCriteria (.dict c) = .ok f → ofCriteria (.dict d) = .ok g →
        ∃ h, ofCriteria (.dict (c ++ d)) = .ok h ∧
          conditions h = conditions f ++ conditions g) ∧
      (∀ e, ofCriteria (.dict c) = .error e → e.className = "ValidationError") ∧
      ((∃ f, ofCriteria (.dict c) = .ok f) ↔ ∀ e ∈ c, ∃ f, Asks e f) ∧
      ∀ f, ofCriteria (.dict c) = .ok f →
        List.Forall₂ Asks c (conditions f) ∧
          ∀ kind gs, f = some (.conjunction kind gs) ↔
            kind = .and ∧ gs = conditions f ∧ 2 ≤ c.length := by
  refine ⟨?_, fun f g hf hg => ?_, fun e => className_of_ofCriteria, exists_ofCriteria_iff,
    fun f hf => ?_⟩
  · simp only [exists_ofCriteria_iff, List.forall_mem_append]
  · obtain ⟨fs, hfs, rfl⟩ := ofCriteria_dict_eq_ok_iff.mp hf
    obtain ⟨gs, hgs, rfl⟩ := ofCriteria_dict_eq_ok_iff.mp hg
    have hall : List.Forall₂ Asks (c ++ d) (fs ++ gs) := List.rel_append hfs hgs
    refine ⟨ofConditions (fs ++ gs), ofCriteria_dict_eq_ok_iff.mpr ⟨_, hall, rfl⟩, ?_⟩
    rw [conditions_ofConditions hall, conditions_ofConditions hfs, conditions_ofConditions hgs]
  · obtain ⟨fs, hfs, rfl⟩ := ofCriteria_dict_eq_ok_iff.mp hf
    rw [conditions_ofConditions hfs]
    exact ⟨hfs, fun kind gs => ofConditions_eq_conjunction_iff hfs⟩

/-- A null and a literal, in the order of the mapping. -/
example : ofCriteria (.dict [(.text "owner", .null), (.text "status", .text "draft")]) =
    .ok (some (.conjunction .and
      [.nullCheck "owner" true, .comparison "status" .equal (.single (.text "draft"))])) := rfl

end ObjectStore.Filter
