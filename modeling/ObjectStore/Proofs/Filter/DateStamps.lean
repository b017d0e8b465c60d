import Mathlib
import ObjectStore.Proofs.Filter.Grammar
import ObjectStore.Proofs.Filter.WhereText
import ObjectStore.Proofs.Time.Rfc3339

/-! # Stamps in filters

The readings that a comparison is made with are sent as stamps under the key of dates, one stamp for
each reading. A stamp is a date-time of RFC 3339 that denotes the reading's instant, unless the
offset is no whole number of minutes.

* `Value.readings`, `Value.dateTexts`: the readings in an argument, the texts in a form.
* `Filter.dateTexts_denote`: what the texts in the form of a comparison denote. -/

namespace ObjectStore

/-! ## Readings and their texts -/

/-- The reading that a value is. -/
def Value.reading? : Value → Option DateTime
  | datetime t => some t
  | _ => none

/-- The readings that an argument of a comparison holds: itself, or those in a collection. -/
def Value.readings : Value → List DateTime
  | datetime t => [t]
  | list vs => vs.filterMap reading?
  | tuple vs => vs.filterMap reading?
  | set vs => vs.filterMap reading?
  | frozenset vs => vs.filterMap reading?
  | _ => []

/-- The texts that a form has under the key of dates. -/
def Value.dateTexts : Value → List String
  | dict es =>
    match Entries.getText? Tag.date.name es with
    | some (text s) => [s]
    | some (list vs) => vs.filterMap text?
    | _ => []
  | _ => []

/-- The readings among the literals of `v`. -/
def Operand.readings (v : Operand) : List DateTime :=
  v.literals.filterMap fun l => (Value.ofLiteral l).reading?

/-- Literals of a kind other than dates are no readings. -/
theorem Literal.reading?_eq_none {l : Literal} (h : l.tag ≠ .date) :
    (Value.ofLiteral l).reading? = none := by
  cases l with
  | date t => exact absurd rfl h
  | _ => rfl

/-- `l.tag = .date`: A literal under the key of dates is a reading. -/
theorem Literal.exists_date {l : Literal} (h : l.tag = .date) : ∃ t, l = .date t := by
  cases l with
  | date t => exact ⟨t, rfl⟩
  | _ => cases h

/-- `(ofLiteral l).readings = (Operand.single l).readings`. -/
theorem Value.readings_ofLiteral (l : Literal) :
    (ofLiteral l).readings = (Operand.single l).readings := by
  cases l <;> rfl

/-- `v.readings = items.filterMap reading?`: the readings in a collection are those among its
items. -/
theorem Value.Collects.readings_eq {v : Value} {items : List Value} (h : v.Collects items) :
    v.readings = items.filterMap reading? := by
  cases h with
  | list => rfl
  | tuple => rfl
  | set hset => cases hset <;> rfl

namespace Filter

variable {property : String} {op : Operator} {operand : Operand} {v : Value}

/-! ## What is sent -/

/-- Under the key of dates `leafEntries` has its value, if that is of this kind, and nothing
otherwise. -/
theorem getText?_leafEntries (tag : Tag) (w : Value) :
    Entries.getText? Tag.date.name (leafEntries property op tag w) =
      if tag = .date then some w else none := by
  rw [leafEntries, Entries.getText?_cons_text, if_neg (by decide), Entries.getText?_cons_text,
    if_neg (by decide), Entries.getText?_cons_text]
  by_cases htag : tag = .date
  · rw [if_pos (congrArg Tag.name htag), if_pos htag]
  · rw [if_neg fun h => htag (Tag.name_inj h), if_neg htag]
    rfl

/-- The stamps of dates are the texts that are sent for them. -/
theorem filterMap_text?_wire {ls : List Literal} (h : ∀ l ∈ ls, l.tag = .date) :
    (ls.map Literal.wire).filterMap Value.text? =
      (Operand.many ls).readings.map fun t => String.ofList t.stamp := by
  induction ls with
  | nil => rfl
  | cons l ls ih =>
    obtain ⟨hl, hls⟩ := List.forall_mem_cons.mp h
    obtain ⟨t, rfl⟩ := Literal.exists_date hl
    exact congrArg (String.ofList t.stamp :: ·) (ih hls)

/-- `dateTexts`: under the key of dates a comparison is sent with the stamps of the readings in its
operand. -/
theorem dateTexts_eq (hoperand : operand.Fits op) :
    (Value.dict (leafEntries property op operand.tag operand.wire)).dateTexts =
      operand.readings.map fun t => String.ofList t.stamp := by
  rw [Value.dateTexts, getText?_leafEntries]
  cases hoperand with
  | @single _ l hop hlike hfinite =>
    -- Another literal is below another key, and it is no reading.
    by_cases htag : l.tag = .date
    · obtain ⟨t, rfl⟩ := Literal.exists_date htag
      rfl
    · have hother : (Operand.single l).tag ≠ .date := htag
      rw [if_neg hother, Operand.readings, Operand.literals, List.filterMap_cons,
        Literal.reading?_eq_none htag]
      rfl
  | @many ls tag hne htags hfinite =>
    -- The key is that of the first literal, and they are all of its kind.
    rw [Operand.tag_many hne htags]
    by_cases htag : tag = .date
    · rw [if_pos htag]
      exact filterMap_text?_wire fun l hl => (htags l hl).trans htag
    · have hnone : (Operand.many ls).readings = [] := by
        refine List.filterMap_eq_nil_iff.mpr fun l hl => Literal.reading?_eq_none ?_
        rw [htags l hl]
        exact htag
      rw [if_neg htag, hnone]
      rfl

/-- `operand.readings.Perm v.readings`: the readings in an operand are those in the value that it
was made from. -/
theorem readings_perm (h : operandOf property op v = .ok operand) :
    operand.readings.Perm v.readings := by
  -- Any operator but two takes its literal from the value as it is.
  have hsingle : (checked (Validate.literal ("value for '" ++ property ++ "'") v)).map .single =
      .ok operand → operand.readings.Perm v.readings := by
    intro h
    obtain ⟨l, hl, rfl⟩ := map_eq_ok h
    obtain ⟨rfl, -⟩ := Validate.literal_eq_ok_iff.mp (checked_eq_ok hl)
    rw [Value.readings_ofLiteral]
  cases op with
  | containsAny =>
    obtain ⟨ls, hls, rfl⟩ := map_eq_ok h
    -- A set may have been sorted.
    obtain ⟨items, hitems, hperm⟩ :=
      exists_collects_of_candidateItems (candidates_eq_ok_iff.mp hls).1
    have hreadings : (Operand.many ls).readings = (ls.map .ofLiteral).filterMap Value.reading? := by
      rw [List.filterMap_map]
      rfl
    rw [hitems.readings_eq, hreadings]
    exact hperm.filterMap _
  | like =>
    cases v with
    | text pattern =>
      cases h
      exact .nil
    | _ => cases h
  | _ => exact hsingle h

/-- For each reading that a comparison is made with, one text is sent under the key of dates. It is
a date-time that denotes `t.seconds`, the reading's instant, a naive reading being taken to be at
offset zero; but if the offset is not `WholeMinutes`, it is no date-time. -/
theorem dateTexts_denote {property operator value : Value} {f : Filter}
    (h : Filter.compare property operator value = .ok f) (hexist : ∀ t ∈ value.readings, t.Exists) :
    ∃ form readings, f.wire = .ok form ∧ readings.Perm value.readings ∧
      List.Forall₂ (fun (t : DateTime) s =>
        ∀ i, Rfc3339.Denotes s.toList i ↔ t.WholeMinutes ∧ i = t.seconds)
        readings form.dateTexts := by
  obtain ⟨name, op, operand, rfl, hblank, rfl, hnull, hoperand⟩ := exists_of_compare_eq_ok h
  rw [compare_eq_map hblank hnull, hoperand] at h
  cases h
  have hperm := readings_perm hoperand
  refine ⟨_, operand.readings, rfl, hperm, ?_⟩
  rw [dateTexts_eq (operandOf_fits hoperand), List.forall₂_map_right_iff, List.forall₂_same]
  intro t ht i
  rw [String.toList_ofList]
  exact DateTime.denotes_stamp_iff (hexist t (hperm.mem_iff.mp ht)) i

/-- Noon of a day, read with `offset`, if there is one. -/
def noon (offset : Option Int) : DateTime := ⟨⟨2024, 1, 1⟩, 12, 0, 0, 0, offset.map .fixed, false⟩

/-- `(noon offset).Exists` for an offset of less than a day. -/
theorem noon_exists {offset : Option Int} (h : (offset.getD 0).natAbs < 86400000000) :
    (noon offset).Exists := by
  have hoffset : ∀ span ∈ offset, span.natAbs < 86400000000 := by
    intro span hspan
    rwa [hspan, Option.getD_some] at h
  have hdate : Date.ofNumbers 2024 1 1 = .ok ⟨2024, 1, 1⟩ := rfl
  have htime : DateTime.ofNumbers ⟨2024, 1, 1⟩ 12 0 0 0 offset = .ok (noon offset) := rfl
  exact ((DateTime.ofNumbers_eq_ok_iff (Date.ofNumbers_eq_ok_iff.mp hdate).2 hoffset).mp htime).2

/-- Noon without an offset, and noon at an offset of five hours and a half to the east. -/
theorem dateTexts_denote_twoNoons :
    ∃ f form, Filter.compare (.text "born") (.text Operator.containsAny.name)
        (.tuple [.datetime (noon none), .datetime (noon (some 19800000000))]) = .ok f ∧
      f.wire = .ok form ∧ form.dateTexts.length = 2 ∧
      ∀ s ∈ form.dateTexts, ∃ i, Rfc3339.Denotes s.toList i := by
  have hcandidates : candidates (.tuple [.datetime (noon none),
      .datetime (noon (some 19800000000))]) =
        .ok [.date (noon none), .date (noon (some 19800000000))] := by
    refine candidates_eq_ok_iff.mpr ⟨rfl, .many .date (List.cons_ne_nil _ _) ?_ ?_⟩
    · simp [Literal.tag]
    · simp [Literal.IsFinite]
  have hcompare : Filter.compare (.text "born") (.text Operator.containsAny.name)
      (.tuple [.datetime (noon none), .datetime (noon (some 19800000000))]) =
        .ok (.comparison "born" .containsAny
          (.many [.date (noon none), .date (noon (some 19800000000))])) := by
    rw [compare_eq_map (by decide) (by decide), operandOf, hcandidates]
    rfl
  have hexist : ∀ t ∈ [noon none, noon (some 19800000000)], t.Exists ∧ t.WholeMinutes := by
    intro t ht
    simp only [List.mem_cons, List.not_mem_nil, or_false] at ht
    rcases ht with rfl | rfl <;> exact ⟨noon_exists (by decide), by decide⟩
  obtain ⟨form, readings, hform, hperm, htexts⟩ :=
    dateTexts_denote hcompare fun t ht => (hexist t ht).1
  refine ⟨_, form, hcompare, hform, ?_, ?_⟩
  · rw [← htexts.length_eq, hperm.length_eq]
    rfl
  · intro s hs
    obtain ⟨k, hk, rfl⟩ := List.getElem_of_mem hs
    have hk' : k < readings.length := by rw [htexts.length_eq]; exact hk
    have hwhole := (hexist _ (hperm.mem_iff.mp (List.getElem_mem hk'))).2
    exact ⟨_, (htexts.get hk' hk _).mpr ⟨hwhole, rfl⟩⟩

/-- An offset of one second is written out, and the text is no date-time. -/
theorem dateTexts_oneSecond :
    (noon (some 1000000)).Exists ∧
      ∃ f form, Filter.compare (.text "born") (.text Operator.equal.name)
          (.datetime (noon (some 1000000))) = .ok f ∧
        f.wire = .ok form ∧ form.dateTexts = ["2024-01-01T12:00:00+00:00:01"] ∧
        ∀ i, ¬ Rfc3339.Denotes "2024-01-01T12:00:00+00:00:01".toList i := by
  have hexists : (noon (some 1000000)).Exists := noon_exists (by decide)
  have hstamp : (noon (some 1000000)).stamp = "2024-01-01T12:00:00+00:00:01".toList := by decide
  refine ⟨hexists, _, _, rfl, rfl, by decide +kernel, fun i hdenotes => ?_⟩
  rw [← hstamp] at hdenotes
  exact DateTime.stamp_not_denotes (by decide) i hdenotes

end Filter

end ObjectStore
