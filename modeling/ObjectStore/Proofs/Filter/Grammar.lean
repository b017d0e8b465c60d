import Mathlib
import ObjectStore.Proofs.Filter.Candidates

/-! # What can be compared

A comparison is made of a name that is not blank, of an operator other than the null test, and of a
value that fits the operator. Anything else is objected to. There is one exception to both: a set is
put into order before it is looked at, and fails to be if two of its items that are of one kind are
not ordered. A set of readings, some naive and some aware, is such a set. Another exception is to
the objections alone: the one to an operator shows what was given, and fails if that cannot be
written.

* `Filter.Grammatical`: the arguments that a comparison is there for.
* `Filter.compare_eq_map`: an accepted name and operator leave the operand to be made.
* `Filter.exists_compare_iff`: the arguments that make one, and how the others fail. -/

namespace ObjectStore

/-! ## The grammar -/

namespace Value

/-- That a value is a set of `items`, which may be frozen. -/
inductive IsSetOf (items : List Value) : Value → Prop
  | set : IsSetOf items (.set items)
  | frozenset : IsSetOf items (.frozenset items)

/-- That a value is a list, a tuple or a set of `items`. -/
inductive Collects (items : List Value) : Value → Prop
  | list : Collects items (.list items)
  | tuple : Collects items (.tuple items)
  | set {v : Value} (h : v.IsSetOf items) : Collects items v

/-- That a value fits an operator: a pattern match takes a text, a membership test at least one
scalar, all of one kind, and every other operator one scalar. -/
inductive FitsOperator : Operator → Value → Prop
  | pattern (s : String) : FitsOperator .like (.text s)
  | candidates {v : Value} {items : List Value} (tag : Tag) (hv : v.Collects items)
      (hne : items ≠ []) (hitems : ∀ x ∈ items, x.IsScalar ∧ x.tag = tag) :
      FitsOperator .containsAny v
  | scalar {op : Operator} {v : Value} (hlike : op ≠ .like) (hmember : op ≠ .containsAny)
      (hv : v.IsScalar) : FitsOperator op v

/-- That `v` is a set with a naive and an aware reading in it. -/
def MixesReadings (v : Value) : Prop :=
  ∃ items s t, v.IsSetOf items ∧ .datetime s ∈ items ∧ .datetime t ∈ items ∧
    s.offset = none ∧ t.offset ≠ none

/-- That `v` is a set with two items in it that are of one kind and not ordered. -/
def IsDisordered (v : Value) : Prop :=
  ∃ items, v.IsSetOf items ∧ ¬ items.Pairwise fun x y =>
    x.typeName = y.typeName → (x.before? y).isSome ∧ (y.before? x).isSome

end Value

namespace Filter

/-- The arguments that a comparison is there for. -/
inductive Grammatical : Value → Value → Value → Prop
  | intro {name : String} {op : Operator} {v : Value}
      (hname : Text.allBlank name.toList = false) (hop : op ≠ .isNull) (hv : v.FitsOperator op) :
      Grammatical (.text name) (.text op.name) v

end Filter

/-! ## Sets of literals -/

namespace Value

/-- `v.IsSetOf items`: A set has its items in one order, that in which it is iterated. -/
theorem IsSetOf.eq {items items' : List Value} {v : Value} (h : v.IsSetOf items)
    (h' : v.IsSetOf items') : items = items' := by
  cases h <;> cases h' <;> rfl

/-- `v.IsDisordered`: A set that cannot be sorted has two items of one kind that are not ordered. -/
theorem isDisordered_of_sortedByKind? {items : List Value} {v : Value} (hv : v.IsSetOf items)
    (h : sortedByKind? items = none) : v.IsDisordered := by
  refine ⟨items, hv, fun hall => sortedBy?_eq_none_iff.mp h (hall.imp fun {x y} hxy => ?_)⟩
  simp only [kindBefore?]
  by_cases hkind : x.typeName = y.typeName
  · simpa [hkind] using hxy hkind
  · simp [hkind, Ne.symm hkind]

/-- `v.MixesReadings ↔ sortedByKind? (ls.map ofLiteral) = none`: A set of literals of one kind
cannot be sorted exactly if it mixes readings. -/
theorem mixesReadings_iff {ls : List Literal} {tag : Tag} {v : Value}
    (hv : v.IsSetOf (ls.map ofLiteral)) (hls : ∀ l ∈ ls, l.IsFinite ∧ l.tag = tag) :
    v.MixesReadings ↔ sortedByKind? (ls.map ofLiteral) = none := by
  constructor
  · rintro ⟨items, s, t, hitems, hs, ht, hnaive, haware⟩
    have hmem : ∀ r, .datetime r ∈ items → Literal.date r ∈ ls := by
      intro r hr
      rw [hitems.eq hv] at hr
      exact (List.mem_map_of_injective ofLiteral_injective).mp hr
    refine Literal.sortedByKind?_map_eq_none (fun l hl => (hls l hl).2) (hmem s hs) (hmem t ht) ?_
    simp [Literal.isNaive, hnaive, haware]
  · intro hnone
    by_contra hmixes
    -- Any two of the literals are naive both or aware both, so they could be sorted.
    have hnaive : ∀ a ∈ ls, ∀ b ∈ ls, a.isNaive = true → b.isNaive = true := by
      intro a ha b hb hnaive
      by_contra haware
      obtain ⟨s, rfl⟩ : ∃ s, a = .date s := by
        cases a with
        | date s => exact ⟨s, rfl⟩
        | _ => cases hnaive
      obtain ⟨t, rfl⟩ : ∃ t, b = .date t := by
        have htag := (hls _ hb).2.trans (hls _ ha).2.symm
        cases b with
        | date t => exact ⟨t, rfl⟩
        | _ => cases htag
      refine hmixes ⟨_, s, t, hv, List.mem_map_of_mem ha, List.mem_map_of_mem hb, ?_, ?_⟩
      · simpa [Literal.isNaive] using hnaive
      · simpa [Literal.isNaive] using haware
    have hordered : AreOrdered (ls.map ofLiteral) := areOrdered_map hls fun a ha b hb =>
      Bool.eq_iff_iff.mpr ⟨hnaive a ha b hb, hnaive b hb a ha⟩
    obtain ⟨sorted, hsorted⟩ := hordered.exists_sortedByKind?
    rw [hsorted] at hnone
    cases hnone

end Value

namespace Filter

/-! ## Candidates -/

/-- `checked r = .error e`: A check that fails is passed on as an objection. -/
theorem checked_eq_error {α : Type} {r : Except Invalid α} {e : Failure}
    (h : checked r = .error e) : ∃ i, e = .invalid i := by
  cases r with
  | error i =>
    cases h
    exact ⟨i, rfl⟩
  | ok x => cases h

/-- `candidateItems v = .ok sorted`: the candidates of a set are its items in ascending order. -/
theorem candidateItems_eq_ok_iff {v : Value} {items sorted : List Value} (hv : v.IsSetOf items) :
    candidateItems v = .ok sorted ↔ Value.sortedByKind? items = some sorted := by
  have hsorted : candidateItems v = candidateItems.sortedCandidates items := by cases hv <;> rfl
  rw [hsorted, candidateItems.sortedCandidates]
  cases Value.sortedByKind? items <;> simp

/-- `candidateItems v = .ok sorted`: what is given as candidates is a collection of them in some
order. -/
theorem exists_collects_of_candidateItems {v : Value} {sorted : List Value}
    (h : candidateItems v = .ok sorted) : ∃ items, v.Collects items ∧ sorted.Perm items := by
  have hset : ∀ items, v.IsSetOf items → ∃ items, v.Collects items ∧ sorted.Perm items :=
    fun items hv =>
      ⟨items, .set hv, Value.perm_of_sortedBy? ((candidateItems_eq_ok_iff hv).mp h)⟩
  cases v with
  | list items =>
    cases h
    exact ⟨_, .list, .refl _⟩
  | tuple items =>
    cases h
    exact ⟨_, .tuple, .refl _⟩
  | set items => exact hset items .set
  | frozenset items => exact hset items .frozenset
  | _ => cases h

/-- `candidates v`: literals of one kind are candidates in whatever order they come. -/
theorem candidates_of_perm {v : Value} {sorted items : List Value} {tag : Tag}
    (h : candidateItems v = .ok sorted) (hperm : sorted.Perm items) (hne : items ≠ [])
    (hitems : ∀ x ∈ items, x.IsScalar ∧ x.tag = tag) :
    ∃ ls, candidates v = .ok ls ∧ sorted = ls.map .ofLiteral := by
  obtain ⟨ls, rfl, hls⟩ := Value.exists_literals fun x hx => hitems x (hperm.mem_iff.mp hx)
  have hlsne : ls ≠ [] := by
    rintro rfl
    exact hne hperm.symm.eq_nil
  exact ⟨ls, candidates_eq_ok_iff.mpr
    ⟨h, .many tag hlsne (fun l hl => (hls l hl).2) fun l hl => (hls l hl).1⟩, rfl⟩

/-- `candidates v`: a value has candidates if it fits a membership test and does not mix
readings. -/
theorem exists_candidates_iff {v : Value} :
    (∃ ls, candidates v = .ok ls) ↔ v.FitsOperator .containsAny ∧ ¬ v.MixesReadings := by
  constructor
  · rintro ⟨ls, h⟩
    obtain ⟨hsorted, hfits⟩ := candidates_eq_ok_iff.mp h
    obtain ⟨items, hv, hperm⟩ := exists_collects_of_candidateItems hsorted
    cases hfits with
    | many tag hne htag hls =>
      have hscalar : ∀ x ∈ ls.map Value.ofLiteral, x.IsScalar ∧ x.tag = tag := by
        intro x hx
        obtain ⟨l, hl, rfl⟩ := List.mem_map.mp hx
        exact ⟨Value.isScalar_iff.mpr ⟨l, rfl, hls l hl⟩, by rw [Value.tag_ofLiteral, htag l hl]⟩
      have hitems : items ≠ [] := by
        rintro rfl
        exact hne (List.map_eq_nil_iff.mp hperm.eq_nil)
      refine ⟨.candidates tag hv hitems fun x hx => hscalar x (hperm.mem_iff.mpr hx), ?_⟩
      intro hmixes
      -- A set that mixes readings could not have been sorted.
      obtain ⟨given, -, -, hgiven, -⟩ := id hmixes
      have hsome := (candidateItems_eq_ok_iff hgiven).mp hsorted
      have hgivenperm := Value.perm_of_sortedBy? hsome
      obtain ⟨gs, rfl, hgs⟩ := Value.exists_literals fun x hx =>
        hscalar x (hgivenperm.mem_iff.mpr hx)
      rw [(Value.mixesReadings_iff hgiven hgs).mp hmixes] at hsome
      cases hsome
  · rintro ⟨hfits, hmixes⟩
    cases hfits with
    | scalar hlike hmember => exact absurd rfl hmember
    | candidates tag hv hne hitems =>
      obtain ⟨sorted, hsorted, hperm⟩ : ∃ sorted, candidateItems v = .ok sorted ∧
          sorted.Perm _ := by
        cases hv with
        | list => exact ⟨_, rfl, .refl _⟩
        | tuple => exact ⟨_, rfl, .refl _⟩
        | set hset =>
          obtain ⟨ls, rfl, hls⟩ := Value.exists_literals hitems
          cases hsort : Value.sortedByKind? (ls.map .ofLiteral) with
          | none => exact absurd ((Value.mixesReadings_iff hset hls).mpr hsort) hmixes
          | some sorted =>
            exact ⟨sorted, (candidateItems_eq_ok_iff hset).mpr hsort,
              Value.perm_of_sortedBy? hsort⟩
      obtain ⟨ls, hls, -⟩ := candidates_of_perm hsorted hperm hne hitems
      exact ⟨ls, hls⟩

/-- `candidates v`: a set that mixes readings is a misuse, though its items fit a membership
test. -/
theorem candidates_of_mixesReadings {v : Value} (hfits : v.FitsOperator .containsAny)
    (hmixes : v.MixesReadings) : candidates v = .error (.misuse (.unordered "<" "set" "set")) := by
  obtain ⟨given, -, -, hgiven, -⟩ := id hmixes
  cases hfits with
  | scalar hlike hmember => exact absurd rfl hmember
  | @candidates _ items tag hv hne hitems =>
    have hset : v.IsSetOf items := by
      cases hv with
      | list => cases hgiven
      | tuple => cases hgiven
      | set hset => exact hset
    obtain ⟨ls, rfl, hls⟩ := Value.exists_literals hitems
    have hnone := (Value.mixesReadings_iff hset hls).mp hmixes
    have hfail : candidateItems v = .error (.misuse (.unordered "<" "set" "set")) := by
      cases hset <;> simp only [candidateItems, candidateItems.sortedCandidates, hnone]
    rw [candidates, hfail]
    rfl

/-- How `v` is refused with `e`: by an objection, except that a set which cannot be put into order
is a misuse. -/
def IsRefusal (v : Value) (e : Failure) : Prop :=
  e.className = "ValidationError" ∨ v.IsDisordered ∧ e.className = "TypeError"

/-- `candidates v = .error e`: what is no collection of candidates is objected to, if it can be put
into order. -/
theorem isRefusal_of_candidates {v : Value} {e : Failure} (h : candidates v = .error e) :
    IsRefusal v e := by
  -- Sorting comes first, and it is the only step that may fail with something else.
  have hset : ∀ items, v.IsSetOf items → candidateItems.sortedCandidates items = .error e →
      IsRefusal v e := by
    intro items hv hfail
    unfold candidateItems.sortedCandidates at hfail
    split at hfail
    · cases hfail
    · next hnone =>
      cases hfail
      exact .inr ⟨Value.isDisordered_of_sortedByKind? hv hnone, rfl⟩
  unfold candidates at h
  rcases bind_eq_error h with hitems | ⟨items, -, h⟩
  · cases v with
    | set items => exact hset items .set hitems
    | frozenset items => exact hset items .frozenset hitems
    | list items => cases hitems
    | tuple items => cases hitems
    | _ =>
      cases hitems
      exact .inl rfl
  · split at h
    · cases h
      exact .inl rfl
    · rcases bind_eq_error h with hliterals | ⟨literals, -, h⟩
      · obtain ⟨i, rfl⟩ := checked_eq_error hliterals
        exact .inl rfl
      · dsimp only at h
        split at h
        · cases h
          exact .inl rfl
        · cases h

/-! ## Comparisons -/

/-- `Validate.propertyName v = .ok name`: the names that are accepted are the texts that are not
blank. -/
theorem propertyName_eq_ok_iff {v : Value} {name : String} :
    Validate.propertyName v = .ok name ↔
      v = .text name ∧ Text.allBlank name.toList = false := by
  cases v with
  | text s =>
    by_cases hblank : Text.allBlank s.toList = true
    · simp only [Validate.propertyName, hblank, if_true, Value.text.injEq]
      constructor
      · intro h
        cases h
      · rintro ⟨rfl, h⟩
        rw [hblank] at h
        cases h
    · simp only [Validate.propertyName, hblank, Value.text.injEq]
      constructor
      · intro h
        cases h
        exact ⟨rfl, by simpa using hblank⟩
      · rintro ⟨rfl, -⟩
        rfl
  | _ => simp [Validate.propertyName]

/-- `operatorOf v = .ok op` exactly if `v` is the name of `op`. -/
theorem operatorOf_eq_ok_iff {v : Value} {op : Operator} :
    operatorOf v = .ok op ↔ v = .text op.name := by
  constructor
  · intro h
    unfold operatorOf at h
    split at h
    · next found hfound =>
      cases h
      obtain ⟨s, hs, hname⟩ := Option.bind_eq_some_iff.mp hfound
      have hsame : op.name = s := by simpa using List.find?_some hname
      rw [hsame]
      cases v <;> cases hs
      rfl
    · cases h
  · rintro rfl
    simp [operatorOf, Value.text?, Operator.ofName?_name]

/-- `operandOf property op v`: a value gives an operand for an operator if it fits it and does not
mix readings. -/
theorem exists_operandOf_iff (property : String) {op : Operator} {v : Value} :
    (∃ operand, operandOf property op v = .ok operand) ↔
      v.FitsOperator op ∧ ¬ v.MixesReadings := by
  -- The operators that take one scalar; none of those is a set.
  have hscalar : ∀ op, op ≠ .like → op ≠ .containsAny →
      ((∃ operand, (checked (Validate.literal ("value for '" ++ property ++ "'") v)).map
        Operand.single = .ok operand) ↔ v.FitsOperator op ∧ ¬ v.MixesReadings) := by
    intro op hlike hmember
    constructor
    · rintro ⟨operand, h⟩
      obtain ⟨l, hl, -⟩ := map_eq_ok h
      have hv := Value.isScalar_iff.mpr ⟨l, Validate.literal_eq_ok_iff.mp (checked_eq_ok hl)⟩
      refine ⟨.scalar hlike hmember hv, ?_⟩
      rintro ⟨items, -, -, hitems, -⟩
      cases hitems <;> cases hv
    · rintro ⟨hfits, -⟩
      cases hfits with
      | pattern s => exact absurd rfl hlike
      | candidates => exact absurd rfl hmember
      | scalar _ _ hv =>
        obtain ⟨l, hl⟩ := Value.isScalar_iff.mp hv
        rw [Validate.literal_eq_ok_iff.mpr hl]
        exact ⟨_, rfl⟩
  cases op with
  | containsAny =>
    -- The candidates of a membership test.
    rw [← exists_candidates_iff]
    constructor
    · rintro ⟨operand, h⟩
      obtain ⟨ls, hls, -⟩ := map_eq_ok h
      exact ⟨ls, hls⟩
    · rintro ⟨ls, hls⟩
      exact ⟨.many ls, by rw [operandOf, hls]; rfl⟩
  | like =>
    cases v with
    | text s =>
      -- A pattern is a text, and anything else is refused.
      refine ⟨fun _ => ⟨.pattern s, ?_⟩, fun _ => ⟨_, rfl⟩⟩
      rintro ⟨items, -, -, hitems, -⟩
      cases hitems
    | _ =>
      constructor
      · rintro ⟨operand, h⟩
        cases h
      · rintro ⟨hfits, -⟩
        cases hfits with
        | scalar hlike => exact absurd rfl hlike
  | _ => exact hscalar _ (by decide) (by decide)

/-- `operandOf property op v = .error e`: an operand that does not fit its operator is refused with
a validation error, or is a set that cannot be sorted. -/
theorem isRefusal_of_operandOf {property : String} {op : Operator} {v : Value} {e : Failure}
    (h : operandOf property op v = .error e) :
    IsRefusal v e := by
  have hscalar : (checked (Validate.literal ("value for '" ++ property ++ "'") v)).map
      Operand.single = .error e → IsRefusal v e := by
    intro h
    obtain ⟨i, rfl⟩ := checked_eq_error (map_eq_error h)
    exact .inl rfl
  cases op with
  | containsAny => exact isRefusal_of_candidates (map_eq_error h)
  | like =>
    cases v with
    | text s => cases h
    | _ =>
      cases h
      exact .inl rfl
  | _ => exact hscalar h

/-- `Filter.compare`: once its name and its operator are accepted, a comparison is made of its
operand. -/
theorem compare_eq_map {name : String} {op : Operator} (hblank : Text.allBlank name.toList = false)
    (hnull : op ≠ .isNull) (v : Value) :
    Filter.compare (.text name) (.text op.name) v =
      (operandOf name op v).map (comparison name op) := by
  have hname : checked (Validate.propertyName (.text name)) = .ok name := by
    rw [propertyName_eq_ok_iff.mpr ⟨rfl, hblank⟩]
    rfl
  rw [Filter.compare, hname, operatorOf_eq_ok_iff.mpr rfl]
  show (if op = .isNull then _ else _) = _
  rw [if_neg hnull]
  cases operandOf name op v <;> rfl

/-- `Filter.compare property operator value = .ok f`: the arguments that make a comparison, part by
part. -/
theorem exists_of_compare_eq_ok {property operator value : Value} {f : Filter}
    (h : Filter.compare property operator value = .ok f) :
    ∃ name op operand, property = .text name ∧ Text.allBlank name.toList = false ∧
      operator = .text op.name ∧ op ≠ .isNull ∧ operandOf name op value = .ok operand := by
  unfold Filter.compare at h
  obtain ⟨name, hname, h⟩ := bind_eq_ok h
  obtain ⟨op, hop, h⟩ := bind_eq_ok h
  obtain ⟨hproperty, hblank⟩ := propertyName_eq_ok_iff.mp (checked_eq_ok hname)
  split at h
  · cases h
  · next hnull =>
    obtain ⟨operand, hoperand, -⟩ := bind_eq_ok h
    exact ⟨name, op, operand, hproperty, hblank, operatorOf_eq_ok_iff.mp hop, hnull, hoperand⟩

/-- `operatorOf v = .error e`: what names no operator is objected to, if it can be written;
otherwise it is a bad value. -/
theorem className_of_operatorOf {v : Value} {e : Failure} (h : operatorOf v = .error e) :
    e.className = if v.isWritable then "ValidationError" else "ValueError" := by
  unfold operatorOf at h
  split at h
  · cases h
  · cases h
    rw [Failure.className_causedBy, Failure.className_rejected]

/-- `operatorOf v`: what cannot be written names no operator. -/
theorem exists_of_operatorOf_unwritable {v : Value} (h : v.isWritable = false) :
    ∃ e, operatorOf v = .error e ∧ e.className = "ValueError" := by
  cases hop : operatorOf v with
  | ok op =>
    rw [operatorOf_eq_ok_iff.mp hop, Value.isWritable_text] at h
    cases h
  | error e => exact ⟨e, rfl, by rw [className_of_operatorOf hop, h]; rfl⟩

/-- `Filter.compare property operator value = .error e`: A comparison fails as its operand does, by
an objection, or as the objection to its operator. -/
theorem isRefusal_of_compare {property operator value : Value} {e : Failure}
    (h : Filter.compare property operator value = .error e) :
    IsRefusal value e ∨ operator.isWritable = false ∧ e.className = "ValueError" := by
  unfold Filter.compare at h
  rcases bind_eq_error h with hname | ⟨name, -, h⟩
  · obtain ⟨i, rfl⟩ := checked_eq_error hname
    exact .inl (.inl rfl)
  rcases bind_eq_error h with hop | ⟨op, -, h⟩
  · have hclass := className_of_operatorOf hop
    cases hwritable : operator.isWritable with
    | true => exact .inl (.inl (by rw [hclass, hwritable]; rfl))
    | false => exact .inr ⟨rfl, by rw [hclass, hwritable]; rfl⟩
  split at h
  · cases h
    exact .inl (.inl rfl)
  · rcases bind_eq_error h with hoperand | ⟨operand, -, h⟩
    · exact .inl (isRefusal_of_operandOf hoperand)
    · cases h

/-- `Filter.compare` makes a comparison of arguments of any kind if they are `Grammatical` and the
value does not mix readings. A value that fits and mixes readings is a misuse. An operator that
cannot be written is a bad value, if the name is accepted. Every failure is an objection, except
that a set with two items of one kind that are not ordered may be a misuse and such an operator a
bad value. -/
theorem exists_compare_iff (property operator value : Value) :
    ((∃ f, Filter.compare property operator value = .ok f) ↔
        Grammatical property operator value ∧ ¬ value.MixesReadings) ∧
      (Grammatical property operator value → value.MixesReadings →
        ∃ e, Filter.compare property operator value = .error e ∧ e.className = "TypeError") ∧
      ((∃ name, Validate.propertyName property = .ok name) → operator.isWritable = false →
        ∃ e, Filter.compare property operator value = .error e ∧ e.className = "ValueError") ∧
      ∀ e, Filter.compare property operator value = .error e →
        e.className = "ValidationError" ∨ value.IsDisordered ∧ e.className = "TypeError" ∨
          operator.isWritable = false ∧ e.className = "ValueError" := by
  refine ⟨⟨?_, ?_⟩, ?_, ?_, fun e he => or_assoc.mp (isRefusal_of_compare he)⟩
  · rintro ⟨f, h⟩
    obtain ⟨name, op, operand, rfl, hblank, rfl, hnull, hoperand⟩ := exists_of_compare_eq_ok h
    obtain ⟨hfits, hmixes⟩ := (exists_operandOf_iff name).mp ⟨operand, hoperand⟩
    exact ⟨.intro hblank hnull hfits, hmixes⟩
  · rintro ⟨⟨hblank, hnull, hfits⟩, hmixes⟩
    obtain ⟨operand, hoperand⟩ := (exists_operandOf_iff _).mpr ⟨hfits, hmixes⟩
    exact ⟨_, by rw [compare_eq_map hblank hnull, hoperand]; rfl⟩
  · rintro ⟨hblank, hnull, hfits⟩ hmixes
    obtain ⟨items, -, -, hset, -⟩ := id hmixes
    refine ⟨.misuse (.unordered "<" "set" "set"), ?_, rfl⟩
    rw [compare_eq_map hblank hnull]
    -- A set fits nothing but a membership test.
    cases hfits with
    | pattern s => cases hset
    | candidates tag hv hne hitems =>
      rw [operandOf, candidates_of_mixesReadings (.candidates tag hv hne hitems) hmixes]
      rfl
    | scalar hlike hmember hv => cases hset <;> cases hv
  · rintro ⟨name, hname⟩ hwritable
    obtain ⟨e, he, hclass⟩ := exists_of_operatorOf_unwritable hwritable
    refine ⟨e, ?_, hclass⟩
    rw [Filter.compare, hname, he]
    rfl

/-- A reading without a zone. -/
def naiveNoon : DateTime := ⟨⟨2024, 1, 1⟩, 12, 0, 0, 0, none, false⟩

/-- The reading `naiveNoon` at offset zero. -/
def awareNoon : DateTime := { naiveNoon with zone := some (.fixed 0) }

/-- A list of a naive and an aware reading is compared with, a set of the same two is a misuse. -/
theorem compare_mixedReadings :
    Grammatical (.text "born") (.text "contains_any")
        (.set [.datetime naiveNoon, .datetime awareNoon]) ∧
      Filter.compare (.text "born") (.text "contains_any")
          (.list [.datetime naiveNoon, .datetime awareNoon]) =
        .ok (.comparison "born" .containsAny (.many [.date naiveNoon, .date awareNoon])) ∧
      ∃ e, Filter.compare (.text "born") (.text "contains_any")
          (.set [.datetime naiveNoon, .datetime awareNoon]) = .error e ∧
        e.className = "TypeError" := by
  have hblank : Text.allBlank "born".toList = false := by simp; decide
  have hnull : Operator.containsAny ≠ .isNull := by decide
  have hitems : ∀ x ∈ [Value.datetime naiveNoon, .datetime awareNoon],
      x.IsScalar ∧ x.tag = .date := by
    intro x hx
    simp only [List.mem_cons, List.not_mem_nil, or_false] at hx
    rcases hx with rfl | rfl <;> exact ⟨.datetime _, rfl⟩
  have hfits : Value.FitsOperator .containsAny
      (.set [.datetime naiveNoon, .datetime awareNoon]) :=
    .candidates .date (.set .set) (by simp) hitems
  have hmixes : (Value.set [.datetime naiveNoon, .datetime awareNoon]).MixesReadings :=
    ⟨_, naiveNoon, awareNoon, .set, by simp, by simp, rfl, by decide⟩
  have hlist : candidates (.list [.datetime naiveNoon, .datetime awareNoon]) =
      .ok [.date naiveNoon, .date awareNoon] :=
    candidates_eq_ok_iff.mpr ⟨rfl, .many .date (by simp) (by simp [Literal.tag])
      (by simp [Literal.IsFinite])⟩
  refine ⟨.intro hblank hnull hfits, (compare_eq_map hblank hnull _).trans ?_,
    .misuse (.unordered "<" "set" "set"), (compare_eq_map hblank hnull _).trans ?_, rfl⟩
  · rw [operandOf, hlist]
    rfl
  · rw [operandOf, candidates_of_mixesReadings hfits hmixes]
    rfl

end Filter

end ObjectStore
