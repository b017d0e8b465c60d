import Mathlib
import ObjectStore.Proofs.Except
import ObjectStore.Query.Response

/-! # Reported errors

An envelope may report errors of the store instead of objects, or besides them. Each reported error
gives a text: an object the text of its message, if it has one, and anything else its own text. The
texts are joined, in their order, to the message of one failure that carries all that was reported.
A message that is there but is no text has no place in it, and the envelope is a misuse; what has no
text of its own, since it holds a whole number of too many digits, is a bad value.

* `Response.Reports`: a reported error and its text.
* `Response.told`: what is gathered of a reported error before any of it is looked at.
* `Response.records_of_errors`: when reported errors are passed on, and in what words. -/

namespace ObjectStore.Response

variable {collection text : String} {es : Entries} {v : Value} {items : List Value}

/-! ## Single errors -/

/-- A reported error and the text that it gives. -/
inductive Reports : Value → String → Prop
  | unnamed {es : Entries} (h : Entries.getText? "message" es = none) :
      Reports (.dict es) "Unknown error"
  | message {es : Entries} {text : String} (h : Entries.getText? "message" es = some (.text text)) :
      Reports (.dict es) text
  | other {v : Value} (h : ∀ es, v ≠ .dict es) : Reports v v.written

/-- That the message of the reported error `v`, if it is an object and has one, is a text. -/
def MessageIsText (v : Value) : Prop :=
  ∀ es message, v = .dict es → Entries.getText? "message" es = some message →
    ∃ text, message = .text text

/-- That the reported error `v` is an object or can be written. -/
def CanBeTold (v : Value) : Prop := (∃ es, v = .dict es) ∨ v.isWritable = true

/-- What is told of a reported error: the message of an object, or a text of its own. -/
def told : Value → Value
  | .dict es => (Entries.getText? "message" es).getD (.text "Unknown error")
  | v => .text v.written

/-- `reportOf v = .ok (told v)` if `v` can be told. -/
theorem reportOf_of_canBeTold (h : CanBeTold v) : reportOf v = .ok (told v) := by
  rcases h with ⟨es, rfl⟩ | h
  · rfl
  · cases v with
    | dict es => rfl
    | _ => simp only [reportOf, told, h, if_true]

/-- `reportOf v` is a bad value if `v` cannot be told. -/
theorem reportOf_of_not_canBeTold (h : ¬ CanBeTold v) :
    reportOf v = .error (.badValue .numberTooLong) := by
  have hwritable : v.isWritable = false := by
    by_contra hv
    exact h (.inr (Bool.not_eq_false _ ▸ hv))
  cases v with
  | dict es => exact absurd (.inl ⟨es, rfl⟩) h
  | _ => simp only [reportOf, hwritable, Bool.false_eq_true, if_false]

/-- `reportText (told v) = .ok text ↔ Reports v text`: the texts of what is told are those of the
reported errors. -/
theorem reportText_told_iff : reportText (told v) = .ok text ↔ Reports v text := by
  constructor
  · intro h
    cases v with
    | dict es =>
      rw [told] at h
      -- An object is told as its message, if it has one, and anything else as itself.
      cases hmessage : Entries.getText? "message" es with
      | none =>
        rw [hmessage] at h
        cases h
        exact .unnamed hmessage
      | some message =>
        rw [hmessage, Option.getD_some] at h
        cases message with
        | text s =>
          cases h
          exact .message hmessage
        | _ => cases h
    | _ =>
      cases h
      exact .other fun _ h => nomatch h
  · intro h
    cases h with
    | unnamed h => rw [told, h]; rfl
    | message h => rw [told, h]; rfl
    | other h =>
      cases v with
      | dict es => exact absurd rfl (h es)
      | _ => rfl

/-- `Reports v text`: a reported error has a text unless it is an object whose message is none. -/
theorem exists_reports_iff : (∃ text, Reports v text) ↔ MessageIsText v := by
  constructor
  · rintro ⟨text, h⟩ es message rfl hmessage
    cases h with
    | unnamed h => rw [h] at hmessage; cases hmessage
    | message h => rw [h] at hmessage; cases hmessage; exact ⟨text, rfl⟩
    | other h => exact absurd rfl (h es)
  · intro h
    by_cases hv : ∃ es, v = .dict es
    · obtain ⟨es, rfl⟩ := hv
      cases hmessage : Entries.getText? "message" es with
      | none => exact ⟨_, .unnamed hmessage⟩
      | some message =>
        obtain ⟨text, rfl⟩ := h es message rfl hmessage
        exact ⟨text, .message hmessage⟩
    · exact ⟨_, .other fun es h => hv ⟨es, h⟩⟩

/-- `reportText` fails on what is no text, by a misuse. -/
theorem reportText_eq_error {e : Failure} (h : reportText v = .error e) :
    ∃ kind, e = .misuse (.notText kind) := by
  cases v with
  | text s => cases h
  | _ =>
    cases h
    exact ⟨_, rfl⟩

/-- `Reports v text` for one text only. -/
theorem Reports.eq {text' : String} (h : Reports v text) (h' : Reports v text') : text = text' :=
  Except.ok.inj ((reportText_told_iff.mpr h).symm.trans (reportText_told_iff.mpr h'))

/-! ## Lists of errors -/

/-- `Reports`: reported errors all have texts, or one of them is an object whose message is none. -/
theorem exists_forall₂_reports_iff :
    (∃ texts, List.Forall₂ Reports items texts) ↔ ∀ v ∈ items, MessageIsText v := by
  constructor
  · rintro ⟨texts, h⟩
    induction h with
    | nil => exact fun _ hv => nomatch hv
    | cons hv _ ih => exact List.forall_mem_cons.mpr ⟨exists_reports_iff.mp ⟨_, hv⟩, ih⟩
  · intro h
    induction items with
    | nil => exact ⟨[], .nil⟩
    | cons v items ih =>
      obtain ⟨hv, hitems⟩ := List.forall_mem_cons.mp h
      obtain ⟨text, htext⟩ := exists_reports_iff.mpr hv
      obtain ⟨texts, htexts⟩ := ih hitems
      exact ⟨text :: texts, .cons htext htexts⟩

/-- `items.mapM reportOf = .ok (items.map told)`: of errors that can be told, all is gathered. -/
theorem mapM_reportOf (h : ∀ v ∈ items, CanBeTold v) : items.mapM reportOf = .ok (items.map told) :=
  mapM_eq_ok_of_forall₂ (List.forall₂_map_right_iff.mpr
    (List.forall₂_same.mpr fun v hv => reportOf_of_canBeTold (h v hv)))

/-- `items.mapM reportOf`: nothing is gathered if one of the errors cannot be told. -/
theorem mapM_reportOf_of_not_canBeTold (hv : v ∈ items) (h : ¬ CanBeTold v) :
    items.mapM reportOf = .error (.badValue .numberTooLong) := by
  cases hmap : items.mapM reportOf with
  | ok reports =>
    obtain ⟨report, hreport⟩ := exists_mapM_eq_ok_iff.mp ⟨reports, hmap⟩ v hv
    rw [reportOf_of_not_canBeTold h] at hreport
    cases hreport
  | error e =>
    obtain ⟨w, -, hw⟩ := exists_of_mapM_eq_error hmap
    by_cases htold : CanBeTold w
    · rw [reportOf_of_canBeTold htold] at hw
      cases hw
    · rw [reportOf_of_not_canBeTold htold] at hw
      cases hw
      rfl

/-- `records collection (.dict es) = reported (.list items)`: errors that are there are reported,
whatever else the envelope holds. -/
theorem records_eq_reported (herrors : Entries.getText? "errors" es = some (.list items))
    (hne : items ≠ []) : records collection (.dict es) = reported (.list items) := by
  have htruthy : (Value.list items).truthy = true := by simpa [Value.truthy] using hne
  rw [records, herrors]
  exact if_pos htruthy

/-- `reported (.list items)`, step by step. -/
theorem reported_list {α : Type} (items : List Value) :
    (reported (.list items) : Except Failure α) = (do
      let reports ← items.mapM reportOf
      let texts ← reports.mapM reportText
      .error (.queryError (.text ("GraphQL query failed: " ++ ", ".intercalate texts)) items [])) :=
  rfl

/-- Reported errors `items` that can be told and whose messages are texts are passed on in one
failure, which carries them as they are and is worded by their texts in order. If one of them cannot
be told, that is a bad value; if all can but there is another message, the envelope is a misuse. -/
theorem records_of_errors (herrors : Entries.getText? "errors" es = some (.list items))
    (hne : items ≠ []) :
    ((∀ v ∈ items, MessageIsText v ∧ CanBeTold v) → ∃ texts, List.Forall₂ Reports items texts ∧
        records collection (.dict es) = .error (.queryError
          (.text ("GraphQL query failed: " ++ ", ".intercalate texts)) items [])) ∧
      ((¬ ∀ v ∈ items, CanBeTold v) →
        records collection (.dict es) = .error (.badValue .numberTooLong)) ∧
      ((∀ v ∈ items, CanBeTold v) → (¬ ∀ v ∈ items, MessageIsText v) →
        ∃ kind, records collection (.dict es) = .error (.misuse (.notText kind))) := by
  rw [records_eq_reported herrors hne, reported_list, ← exists_forall₂_reports_iff]
  refine ⟨fun h => ?_, fun h => ?_, fun htold hnone => ?_⟩
  · -- All can be told, and all have texts: these are joined.
    obtain ⟨texts, htexts⟩ := exists_forall₂_reports_iff.mpr fun v hv => (h v hv).1
    have hmap : (items.map told).mapM reportText = .ok texts :=
      mapM_eq_ok_of_forall₂ (List.forall₂_map_left_iff.mpr
        (htexts.imp fun _ _ h => reportText_told_iff.mpr h))
    rw [mapM_reportOf fun v hv => (h v hv).2]
    refine ⟨texts, htexts, ?_⟩
    show ((items.map told).mapM reportText >>= _) = _
    rw [hmap]
    rfl
  · -- One cannot be told, so that there is nothing to join.
    obtain ⟨v, hv, hcannot⟩ : ∃ v ∈ items, ¬ CanBeTold v := by simpa using h
    rw [mapM_reportOf_of_not_canBeTold hv hcannot]
    rfl
  · rw [mapM_reportOf htold]
    show ∃ kind, ((items.map told).mapM reportText >>= _) = _
    -- All can be told, but one of them is no text: joining fails on the first such.
    cases hmap : (items.map told).mapM reportText with
    | ok texts =>
      have hreports := (List.forall₂_map_left_iff.mp (forall₂_of_mapM_eq_ok hmap)).imp
        fun _ _ h => reportText_told_iff.mp h
      exact absurd ⟨texts, hreports⟩ hnone
    | error e =>
      obtain ⟨report, -, hreport⟩ := exists_of_mapM_eq_error hmap
      obtain ⟨kind, rfl⟩ := reportText_eq_error hreport
      exact ⟨kind, rfl⟩

/-- Errors of three shapes: an object with a message, one without, and a text. -/
def threeErrors : List Value :=
  [.dict [(.text "message", .text "no such class"), (.text "path", .list [])], .dict [],
    .text "timeout"]

/-- The data beside `threeErrors` play no part. -/
theorem records_of_errors_threeErrors :
    records "Book" (.dict [(.text "data", .null), (.text "errors", .list threeErrors)]) =
      .error (.queryError (.text "GraphQL query failed: no such class, Unknown error, timeout")
        threeErrors []) := by
  have herrors : Entries.getText? "errors"
      [(.text "data", .null), (.text "errors", .list threeErrors)] = some (.list threeErrors) := by
    simp [Entries.getText?_cons_text]
  have hreports : List.Forall₂ Reports threeErrors ["no such class", "Unknown error", "timeout"] :=
    .cons (.message (by simp [Entries.getText?_cons_text])) (.cons (.unnamed rfl)
      (.cons (.other fun _ h => nomatch h) .nil))
  have htold : ∀ v ∈ threeErrors, CanBeTold v := by
    intro v hv
    simp only [threeErrors, List.mem_cons, List.not_mem_nil, or_false] at hv
    rcases hv with rfl | rfl | rfl
    · exact .inl ⟨_, rfl⟩
    · exact .inl ⟨_, rfl⟩
    · exact .inr (Value.isWritable_text _)
  have htexts : ∀ v ∈ threeErrors, MessageIsText v := exists_forall₂_reports_iff.mp ⟨_, hreports⟩
  obtain ⟨texts, hreports', hrecords⟩ := (records_of_errors herrors (List.cons_ne_nil _ _)).1
    fun v hv => ⟨htexts v hv, htold v hv⟩
  have hunique : Relator.RightUnique Reports := fun _ _ _ h h' => h.eq h'
  rw [List.right_unique_forall₂' hunique hreports' hreports] at hrecords
  exact hrecords

/-- An error whose message is null is not passed on. -/
theorem records_nullMessage :
    records "Book" (.dict [(.text "errors", .list [.dict [(.text "message", .null)]])]) =
      .error (.misuse (.notText "NoneType")) := by
  have herrors : Entries.getText? "errors"
      [(.text "errors", .list [.dict [(.text "message", .null)]])] =
        some (.list [.dict [(.text "message", .null)]]) := by
    simp [Entries.getText?_cons_text]
  have htold : ([Value.dict [(.text "message", .null)]].map told) = [.null] := by
    simp [told, Entries.getText?_cons_text]
  rw [records_eq_reported herrors (List.cons_ne_nil _ _), reported_list, mapM_reportOf, htold]
  · rfl
  · intro v hv
    rw [List.mem_singleton.mp hv]
    exact .inl ⟨_, rfl⟩

end ObjectStore.Response
