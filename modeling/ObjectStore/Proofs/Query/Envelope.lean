import Mathlib
import ObjectStore.Proofs.Value.Entries
import ObjectStore.Query.Response

/-! # Envelopes

The objects that answer a query stand in the list under the collection's name, which is in the
object under `Get`, which is in the object under `data`. An envelope without errors either holds
objects in this way or has a first place, from the outside in, at which it does not; in the one case
the objects are unwrapped, all of them and in their order, and in the other the place is reported.

* `Response.Holds`, `Response.FirstFault`: the two ways an envelope can be.
* `Response.Unwrapped`: an object and what is made of it.
* `Response.records_eq_iff`: what the records of an envelope are, and when there are none. -/

namespace ObjectStore.Response

variable {collection segment : String} {envelope : Value} {es r : Entries}
  {objects : List Entries}

/-! ## Objects and their records -/

/-- The entries of the object `es` apart from its block of additions. -/
def ownEntries (es : Entries) : Entries := es.filter fun e => e.1.text? ≠ some Fields.metadataKey

/-- The identifier in the block of additions of `es`, if there is one. -/
def identifier? (es : Entries) : Option Value :=
  match Entries.getText? Fields.metadataKey es with
  | some (.dict additions) => Entries.getText? "id" additions
  | _ => none

/-- An object and what is made of it: its own entries, among which the identifier takes the place
of an `id` that is there, and else comes last. -/
inductive Unwrapped (es : Entries) : Entries → Prop
  | unnamed (h : identifier? es = none) : Unwrapped es (ownEntries es)
  | inPlace {id old : Value} {front back : Entries} (h : identifier? es = some id)
      (hown : ownEntries es = front ++ (.text "id", old) :: back)
      (hfront : ∀ e ∈ front, e.1 ≠ .text "id") : Unwrapped es (front ++ (.text "id", id) :: back)
  | last {id : Value} (h : identifier? es = some id)
      (hown : ∀ e ∈ ownEntries es, e.1 ≠ .text "id") :
      Unwrapped es (ownEntries es ++ [(.text "id", id)])

/-- `record es = ownEntries es` for an object without an identifier. -/
theorem record_of_identifier?_eq_none (h : identifier? es = none) : record es = ownEntries es := by
  rw [identifier?] at h
  rw [record, Entries.eraseText_eq_filter]
  cases hadditions : Entries.getText? Fields.metadataKey es with
  | none => rfl
  | some v =>
    rw [hadditions] at h
    cases v with
    | dict additions =>
      dsimp only at h ⊢
      rw [h]
      rfl
    | _ => rfl

/-- `record es` has the identifier of `es` under `"id"`. -/
theorem record_of_identifier?_eq_some {id : Value} (h : identifier? es = some id) :
    record es = (ownEntries es).putText "id" id := by
  rw [identifier?] at h
  split at h
  · next additions hadditions =>
    rw [record, Entries.eraseText_eq_filter, hadditions]
    dsimp only
    rw [h]
    rfl
  · cases h

/-- `Unwrapped es (record es)`. -/
theorem unwrapped_record (es : Entries) : Unwrapped es (record es) := by
  cases h : identifier? es with
  | none =>
    rw [record_of_identifier?_eq_none h]
    exact .unnamed h
  | some id =>
    rw [record_of_identifier?_eq_some h]
    rcases Entries.exists_eq_append_cons_or_forall_ne "id" (ownEntries es) with
      ⟨front, old, back, hown, hfront⟩ | hown
    · rw [hown, Entries.putText_append_cons hfront]
      exact .inPlace h hown hfront
    · rw [Entries.putText_of_forall_ne hown]
      exact .last h hown

/-- `Unwrapped es r` only if `r = record es`. -/
theorem Unwrapped.eq_record (h : Unwrapped es r) : r = record es := by
  cases h with
  | unnamed h => rw [record_of_identifier?_eq_none h]
  | inPlace h hown hfront =>
    rw [record_of_identifier?_eq_some h, hown, Entries.putText_append_cons hfront]
  | last h hown => rw [record_of_identifier?_eq_some h, Entries.putText_of_forall_ne hown]

/-- `rs = objects.map record` are the only unwrapped forms of `objects`. -/
theorem forall₂_unwrapped_iff {rs : List Entries} :
    List.Forall₂ Unwrapped objects rs ↔ rs = objects.map record := by
  constructor
  · intro h
    induction h with
    | nil => rfl
    | cons hr _ ih => rw [List.map_cons, ← hr.eq_record, ih]
  · rintro rfl
    rw [List.forall₂_map_right_iff]
    exact List.forall₂_same.mpr fun es _ => unwrapped_record es

/-! ## Lists of objects -/

/-- `recordsFrom collection n (objects.map .dict) = .ok (objects.map record)`. -/
theorem recordsFrom_map_dict (collection : String) (n : Nat) (objects : List Entries) :
    recordsFrom collection n (objects.map .dict) = .ok (objects.map record) := by
  induction objects generalizing n with
  | nil => rfl
  | cons es objects ih =>
    rw [List.map_cons, recordsFrom, ih]
    rfl

/-- `recordsFrom`: the first item that is no object is reported by its index. -/
theorem recordsFrom_append_cons (collection : String) (n : Nat) (objects : List Entries) {v : Value}
    (hv : ∀ es, v ≠ .dict es) (items : List Value) :
    ∃ message, recordsFrom collection n (objects.map .dict ++ v :: items) =
      malformed message (collection ++ "[" ++ toString (n + objects.length) ++ "]") := by
  induction objects generalizing n with
  | nil =>
    cases v with
    | dict es => exact absurd rfl (hv es)
    | _ => exact ⟨_, rfl⟩
  | cons es objects ih =>
    obtain ⟨message, hmessage⟩ := ih (n + 1)
    refine ⟨message, ?_⟩
    rw [List.map_cons, List.cons_append, recordsFrom, hmessage, List.length_cons,
      Nat.add_right_comm, Nat.add_assoc]
    rfl

/-- Items are objects all of them, or there is a first one that is none. -/
theorem exists_objects_or_first (items : List Value) :
    (∃ objects : List Entries, items = objects.map .dict) ∨
      ∃ (objects : List Entries) (v : Value) (rest : List Value),
        items = objects.map .dict ++ v :: rest ∧ ∀ es, v ≠ .dict es := by
  induction items with
  | nil => exact .inl ⟨[], rfl⟩
  | cons v items ih =>
    by_cases hv : ∃ es, v = .dict es
    · obtain ⟨es, rfl⟩ := hv
      rcases ih with ⟨objects, rfl⟩ | ⟨objects, v, rest, rfl, hv⟩
      · exact .inl ⟨es :: objects, rfl⟩
      · exact .inr ⟨es :: objects, v, rest, rfl, hv⟩
    · exact .inr ⟨[], v, items, rfl, fun es h => hv ⟨es, h⟩⟩

/-! ## Envelopes from the outside in -/

/-- The errors that an envelope reports. -/
def errorsOf : Value → Value
  | .dict es => (Entries.getText? "errors" es).getD .null
  | _ => .null

/-- That `envelope` holds `objects` for `collection`. -/
def Holds (collection : String) (envelope : Value) (objects : List Entries) : Prop :=
  ∃ es data got, envelope = .dict es ∧ Entries.getText? "data" es = some (.dict data) ∧
    Entries.getText? "Get" data = some (.dict got) ∧
      Entries.getText? collection got = some (.list (objects.map .dict))

/-- The first place, from the outside in, at which an envelope is not as it should be. -/
inductive FirstFault (collection : String) : Value → String → Prop
  | root {v : Value} (h : ∀ es, v ≠ .dict es) : FirstFault collection v "<root>"
  | data {es : Entries} (h : ∀ inner, Entries.getText? "data" es ≠ some (.dict inner)) :
      FirstFault collection (.dict es) "data"
  | get {es data : Entries} (hdata : Entries.getText? "data" es = some (.dict data))
      (h : ∀ inner, Entries.getText? "Get" data ≠ some (.dict inner)) :
      FirstFault collection (.dict es) "Get"
  /-- The collection's name is not there, or there is no list under it. -/
  | results {es data got : Entries} (hdata : Entries.getText? "data" es = some (.dict data))
      (hget : Entries.getText? "Get" data = some (.dict got))
      (h : ∀ items, Entries.getText? collection got ≠ some (.list items)) :
      FirstFault collection (.dict es) collection
  | item {es data got : Entries} {objects : List Entries} {v : Value} {items : List Value}
      (hdata : Entries.getText? "data" es = some (.dict data))
      (hget : Entries.getText? "Get" data = some (.dict got))
      (hresults : Entries.getText? collection got = some (.list (objects.map .dict ++ v :: items)))
      (h : ∀ es, v ≠ .dict es) :
      FirstFault collection (.dict es) (collection ++ "[" ++ toString objects.length ++ "]")

/-- An envelope `Holds` objects or has a `FirstFault`. -/
theorem exists_holds_or_firstFault (collection : String) (envelope : Value) :
    (∃ objects, Holds collection envelope objects) ∨
      ∃ segment, FirstFault collection envelope segment := by
  by_cases hroot : ∃ es, envelope = .dict es
  · obtain ⟨es, rfl⟩ := hroot
    by_cases hdata : ∃ data, Entries.getText? "data" es = some (.dict data)
    · obtain ⟨data, hdata⟩ := hdata
      by_cases hget : ∃ got, Entries.getText? "Get" data = some (.dict got)
      · obtain ⟨got, hget⟩ := hget
        by_cases hresults : ∃ items, Entries.getText? collection got = some (.list items)
        · obtain ⟨items, hresults⟩ := hresults
          rcases exists_objects_or_first items with ⟨objects, rfl⟩ | ⟨objects, v, rest, rfl, hv⟩
          · exact .inl ⟨objects, es, data, got, rfl, hdata, hget, hresults⟩
          · exact .inr ⟨_, .item hdata hget hresults hv⟩
        · exact .inr ⟨_, .results hdata hget fun items h => hresults ⟨items, h⟩⟩
      · exact .inr ⟨_, .get hdata fun inner h => hget ⟨inner, h⟩⟩
    · exact .inr ⟨_, .data fun inner h => hdata ⟨inner, h⟩⟩
  · exact .inr ⟨_, .root fun es h => hroot ⟨es, h⟩⟩

/-- `below segment es` is the mapping under `segment`, if there is one. -/
theorem below_of_eq {inner : Entries} (h : Entries.getText? segment es = some (.dict inner)) :
    below segment es = .ok inner := by
  rw [below, h]

/-- `below segment es` objects to `segment` if there is no mapping under it. -/
theorem below_of_ne (h : ∀ inner, Entries.getText? segment es ≠ some (.dict inner)) :
    ∃ message, below segment es = malformed message segment := by
  rw [below]
  split
  · next inner hinner => exact absurd hinner (h inner)
  · exact ⟨_, rfl⟩

/-- `resultsOf collection es` objects to `collection` if there is no list under it. -/
theorem resultsOf_of_ne (h : ∀ items, Entries.getText? collection es ≠ some (.list items)) :
    ∃ message, resultsOf collection es = malformed message collection := by
  rw [resultsOf]
  split
  · exact ⟨_, rfl⟩
  · next items hitems => exact absurd hitems (h items)
  · exact ⟨_, rfl⟩

/-- `records collection (.dict es)`: without errors the envelope is read from the outside in. -/
theorem records_dict (h : (errorsOf (.dict es)).truthy = false) :
    records collection (.dict es) =
      (below "data" es >>= fun data => below "Get" data >>= resultsOf collection) := by
  rw [records]
  exact if_neg (Bool.eq_false_iff.mp h)

/-- `records collection envelope = .ok (objects.map record)`: where no errors are reported, the
records are those of the objects that the envelope holds. -/
theorem records_of_holds (herrors : (errorsOf envelope).truthy = false)
    (h : Holds collection envelope objects) :
    records collection envelope = .ok (objects.map record) := by
  obtain ⟨es, data, got, rfl, hdata, hget, hresults⟩ := h
  rw [records_dict herrors, below_of_eq hdata]
  show (below "Get" data >>= resultsOf collection) = _
  rw [below_of_eq hget]
  show resultsOf collection got = _
  rw [resultsOf, hresults]
  exact recordsFrom_map_dict collection 0 objects

/-- `records collection envelope = malformed message segment`: where no errors are reported, the
objection is to the first fault. -/
theorem records_of_firstFault (herrors : (errorsOf envelope).truthy = false)
    (h : FirstFault collection envelope segment) :
    ∃ message, records collection envelope = malformed message segment := by
  cases h with
  | root h =>
    cases envelope with
    | dict es => exact absurd rfl (h es)
    | _ => exact ⟨_, rfl⟩
  | data h =>
    obtain ⟨message, hmessage⟩ := below_of_ne h
    exact ⟨message, by rw [records_dict herrors, hmessage]; rfl⟩
  | @get es data hdata h =>
    obtain ⟨message, hmessage⟩ := below_of_ne h
    refine ⟨message, ?_⟩
    rw [records_dict herrors, below_of_eq hdata]
    show (below "Get" data >>= resultsOf collection) = _
    rw [hmessage]
    rfl
  | @results es data got hdata hget h =>
    -- The steps before the faulty one are passed, one after the other.
    obtain ⟨message, hmessage⟩ := resultsOf_of_ne h
    refine ⟨message, ?_⟩
    rw [records_dict herrors, below_of_eq hdata]
    show (below "Get" data >>= resultsOf collection) = _
    rw [below_of_eq hget]
    exact hmessage
  | @item es data got objects v items hdata hget hresults h =>
    -- The items are numbered from zero, and those before the faulty one are passed.
    obtain ⟨message, hmessage⟩ := recordsFrom_append_cons collection 0 objects h items
    refine ⟨message, ?_⟩
    rw [records_dict herrors, below_of_eq hdata]
    show (below "Get" data >>= resultsOf collection) = _
    rw [below_of_eq hget]
    show resultsOf collection got = _
    rw [resultsOf, hresults, ← Nat.zero_add objects.length]
    exact hmessage

/-! ## Records and faults -/

/-- `malformed m s = malformed m' s'` only if `s = s'`. -/
theorem malformed_segment_inj {α : Type} {m m' s s' : String}
    (h : (malformed m s : Except Failure α) = malformed m' s') : s = s' := by
  simp only [malformed, Failure.parseError, Except.error.injEq, Failure.library.injEq,
    Topic.parse.injEq, Value.text.injEq] at h
  exact h.1

/-- `records collection envelope`: an envelope without errors gives the unwrapped objects that it
holds, or else the failure that names its first fault; it does one of the two. -/
theorem records_unwrapped_or_malformed (herrors : (errorsOf envelope).truthy = false) :
    (∀ rs, records collection envelope = .ok rs ↔
        ∃ objects, Holds collection envelope objects ∧ List.Forall₂ Unwrapped objects rs) ∧
      (∀ segment, FirstFault collection envelope segment ↔ ∃ message,
        records collection envelope =
          .error (Failure.parseError (.text message) (.text segment) [])) ∧
      ((∃ rs, records collection envelope = .ok rs) ∨
        ∃ segment, FirstFault collection envelope segment) := by
  rcases exists_holds_or_firstFault collection envelope with ⟨objects, hholds⟩ | ⟨segment, hfault⟩
  · -- The envelope holds objects, and no objection to a fault is a list of records.
    have hrecords := records_of_holds herrors hholds
    refine ⟨fun rs => ⟨fun h => ?_, ?_⟩, fun segment => ⟨fun hfault => ?_, ?_⟩, .inl ⟨_, hrecords⟩⟩
    · rw [hrecords] at h
      cases h
      exact ⟨objects, hholds, forall₂_unwrapped_iff.mpr rfl⟩
    · rintro ⟨objects', hholds', hunwrapped⟩
      rw [forall₂_unwrapped_iff.mp hunwrapped]
      exact records_of_holds herrors hholds'
    · obtain ⟨message, hmessage⟩ := records_of_firstFault herrors hfault
      rw [hrecords] at hmessage
      cases hmessage
    · rintro ⟨message, h⟩
      rw [hrecords] at h
      cases h
  · -- It has a first fault, and its segment is read off the failure.
    obtain ⟨message, hrecords⟩ := records_of_firstFault herrors hfault
    refine ⟨fun rs => ⟨fun h => ?_, ?_⟩, fun segment' => ⟨fun hfault' => ?_, ?_⟩,
      .inr ⟨segment, hfault⟩⟩
    · rw [hrecords] at h
      cases h
    · rintro ⟨objects, hholds, -⟩
      rw [records_of_holds herrors hholds] at hrecords
      cases hrecords
    · exact records_of_firstFault herrors hfault'
    · rintro ⟨message', h⟩
      rw [hrecords] at h
      rwa [← malformed_segment_inj h]

/-- The envelope in which the store sends `objects`; its errors are there, but null. -/
def envelopeOf (collection : String) (objects : List Entries) : Value :=
  .dict [(.text "errors", .null),
    (.text "data", .dict [(.text "Get", .dict [(.text collection, .list (objects.map .dict))])])]

/-- `errorsOf (envelopeOf collection objects) = .null`. -/
theorem errorsOf_envelopeOf (collection : String) (objects : List Entries) :
    errorsOf (envelopeOf collection objects) = .null := by
  simp [errorsOf, envelopeOf, Entries.getText?_cons_text]

/-- `Holds collection (envelopeOf collection objects) objects`. -/
theorem holds_envelopeOf (collection : String) (objects : List Entries) :
    Holds collection (envelopeOf collection objects) objects := by
  refine ⟨_, [(.text "Get", .dict [(.text collection, .list (objects.map .dict))])],
    [(.text collection, .list (objects.map .dict))], rfl, ?_, ?_, ?_⟩
  all_goals simp [Entries.getText?_cons_text]

/-- Two objects: one with an `id` before its block of additions, one whose block is null. -/
def twoBooks : List Entries :=
  [[(.text "id", .int 7), (.text "_additional", .dict [(.text "id", .text "b1")]),
    (.text "title", .text "Emma")],
   [(.text "_additional", .null), (.text "id", .int 8)]]

/-- The identifier takes the place of the `id` that is there, and an object without one keeps its
own. -/
theorem records_unwrapped_or_malformed_twoBooks :
    (errorsOf (envelopeOf "Book" twoBooks)).truthy = false ∧
      records "Book" (envelopeOf "Book" twoBooks) =
        .ok [[(.text "id", .text "b1"), (.text "title", .text "Emma")],
          [(.text "id", .int 8)]] := by
  have herrors : (errorsOf (envelopeOf "Book" twoBooks)).truthy = false := by
    rw [errorsOf_envelopeOf]
    rfl
  have hnamed : identifier? twoBooks[0] = some (.text "b1") := by
    simp [identifier?, twoBooks, Fields.metadataKey, Entries.getText?_cons_text]
  have hunnamed : identifier? twoBooks[1] = none := by
    simp [identifier?, twoBooks, Fields.metadataKey, Entries.getText?_cons_text]
  have hplace : ownEntries twoBooks[0] =
      [] ++ (.text "id", .int 7) :: [(.text "title", .text "Emma")] := rfl
  refine ⟨herrors, ((records_unwrapped_or_malformed herrors).1 _).mpr
    ⟨twoBooks, holds_envelopeOf "Book" twoBooks, ?_⟩⟩
  exact .cons (.inPlace hnamed hplace (by simp)) (.cons (.unnamed hunnamed) .nil)

end ObjectStore.Response
