import Mathlib
import ObjectStore.Proofs.Collection.Bodies

/-! # Identifiers of objects

Reading, changing, deleting and looking for an object take a text that is not empty as its
identifier and object to anything else. A creation sends whatever identifier it is given, so an
object may be created that none of the others can address. This happens whenever the identifier is
not such a text, unless the creation is refused for its properties or its vector.

* `Objects.Accepts`, `Objects.Refuses`: that the operations on an object take an identifier, and
  that they all object to it; `Objects.accepts_or_refuses`: that they do one of the two.
* `Objects.creationId?`: the identifier that a creation is for.
* `Objects.KeepsAddressable`: that a creation sends no identifier but those that are accepted.
* `Objects.keepsAddressable_iff`: when it does so. -/

namespace ObjectStore

/-- The operations of `o` that are given `id`, the identifier of an object. -/
inductive StoreOperation.TakesId (o : Objects) (id : Value) : StoreOperation → Prop
  | get : TakesId o id (.get o id)
  | update (es : Entries) : TakesId o id (.update o id (.dict es))
  | delete : TakesId o id (.delete o id)
  | exists? : TakesId o id (.exists? o id)

namespace Objects

open StoreOperation (TakesId)
open Call (payloadValues)

variable {o : Objects} {properties id vector v : Value} {normalize : Bool}

/-! ## Identifiers that are accepted -/

/-- That the operations on an object go on to make calls for `id`. -/
def Accepts (o : Objects) (id : Value) : Prop :=
  ∀ op, TakesId o id op → ∀ clock answers, op.calls clock answers ≠ []

/-- That the operations on an object all object to `id` and send nothing. -/
def Refuses (o : Objects) (id : Value) : Prop :=
  ∀ op, TakesId o id op → ∀ clock answers,
    op.run (Journal.effects clock) (Journal.connection answers) Journal.start =
      (.error (.invalid .badObjectId), Journal.start)

/-- That `id` is a text that is not empty. -/
def IsIdentifier (id : Value) : Prop := ∃ s, id = .text s ∧ s ≠ ""

/-- `idOf id = .error (.invalid .badObjectId)` for a value that is no identifier. -/
theorem idOf_of_not_isIdentifier (h : ¬ IsIdentifier id) :
    idOf id = .error (.invalid .badObjectId) := by
  cases id with
  | text s =>
    have hs : s = "" := by
      by_contra hne
      exact h ⟨s, rfl, hne⟩
    rw [hs]
    rfl
  | _ => rfl

/-- `o.Accepts id`: every operation on single objects accepts an identifier. -/
theorem IsIdentifier.accepts (h : IsIdentifier id) (o : Objects) : o.Accepts id := by
  obtain ⟨s, rfl, hs⟩ := h
  intro op hop clock answers
  cases hop with
  | get =>
    rw [StoreOperation.calls, StoreOperation.run, get, objectPath_text hs]
    exact List.cons_ne_nil _ _
  | update es =>
    rw [StoreOperation.calls_update hs]
    exact List.cons_ne_nil _ _
  | delete =>
    rw [StoreOperation.calls, StoreOperation.run, delete, scopedPath_text hs]
    exact List.cons_ne_nil _ _
  | exists? =>
    rw [StoreOperation.calls, StoreOperation.run, exists?, scopedPath_text hs]
    exact List.cons_ne_nil _ _

/-- `o.Refuses id`: every operation on single objects refuses a value that is no identifier, and
sends nothing. -/
theorem refuses_of_not_isIdentifier (h : ¬ IsIdentifier id) (o : Objects) : o.Refuses id := by
  -- The identifier is looked at in one place, `idOf`, on the way to either path.
  have hpath : o.objectPath id = .error (.invalid .badObjectId) := by
    rw [objectPath, idOf_of_not_isIdentifier h]
    rfl
  have hscoped : o.scopedPath id = .error (.invalid .badObjectId) := by
    rw [scopedPath, hpath]
    rfl
  intro op hop clock answers
  cases hop with
  | get =>
    rw [StoreOperation.run, get, hpath]
    rfl
  | update es =>
    rw [StoreOperation.run, update, updateBody_dict, hscoped]
    rfl
  | delete =>
    rw [StoreOperation.run, delete, hscoped]
    rfl
  | exists? =>
    rw [StoreOperation.run, exists?, hscoped]
    rfl

/-- What is refused is not accepted. -/
theorem Refuses.not_accepts (h : o.Refuses id) : ¬ o.Accepts id := by
  intro haccepts
  refine haccepts _ .get (fun _ => .int 0) (fun _ => .ok .null) ?_
  rw [StoreOperation.calls, h _ .get]
  rfl

/-- `o.Accepts id ↔ IsIdentifier id`: the identifiers are the values that are accepted. -/
theorem accepts_iff : o.Accepts id ↔ IsIdentifier id := by
  refine ⟨fun h => ?_, fun h => h.accepts o⟩
  by_contra hnot
  exact (refuses_of_not_isIdentifier hnot o).not_accepts h

/-- The operations on an object take the same identifiers all of them. -/
theorem accepts_or_refuses (o : Objects) (id : Value) :
    IsIdentifier id ∧ o.Accepts id ∨ ¬ IsIdentifier id ∧ o.Refuses id := by
  by_cases h : IsIdentifier id
  · exact .inl ⟨h, h.accepts o⟩
  · exact .inr ⟨h, refuses_of_not_isIdentifier h o⟩

/-! ## Identifiers that are sent -/

/-- The identifier that a creation is for. It can be among the properties if these are a mapping. -/
def creationId? : Value → Value → Option Value
  | .dict es, id => identifierFor es id
  | _, id => id.present?

/-- That a creation with `properties`, `id` and `vector` keeps objects addressable: every identifier
that it sends is accepted, and with any other it fails with an objection before anything is sent. -/
structure KeepsAddressable (o : Objects) (properties id vector : Value) (normalize : Bool) :
    Prop where
  sent : ∀ clock answers,
    ∀ call ∈ (StoreOperation.create o properties id vector normalize).calls clock answers,
      ∀ v ∈ payloadValues "id" call.payload, o.Accepts v
  refused : ∀ v, creationId? properties id = some v → ¬ o.Accepts v →
    ∃ e : Failure, e.className = "ValidationError" ∧ ∀ clock answers,
      (StoreOperation.create o properties id vector normalize).run (Journal.effects clock)
        (Journal.connection answers) Journal.start = (.error e, Journal.start)

/-- A body that is made has the identifier `creationId? properties id`. -/
theorem payloadValues_of_creationBody {body : Entries}
    (h : o.creationBody properties id vector normalize = .ok body) :
    payloadValues "id" (.dict body) = (creationId? properties id).toList := by
  cases properties with
  | dict es =>
    rw [creationBody_dict] at h
    obtain ⟨xs, -, rfl⟩ := map_eq_ok h
    exact (payloadValues_creationEntries ..).2
  | _ => cases h

/-- The identifier `creationId? properties id` is in every call that a creation makes. -/
theorem payloadValues_calls_create (o : Objects) (properties id vector : Value) (normalize : Bool)
    (clock : Nat → Number) (answers : Nat → Except Failure Value) :
    ∀ call ∈ (StoreOperation.create o properties id vector normalize).calls clock answers,
      payloadValues "id" call.payload = (creationId? properties id).toList := by
  intro call hcall
  cases hbody : o.creationBody properties id vector normalize with
  | error e =>
    rw [StoreOperation.calls, StoreOperation.run_create_of_error hbody] at hcall
    cases hcall
  | ok body =>
    rw [StoreOperation.calls_create_of_ok hbody, List.mem_singleton] at hcall
    rw [hcall]
    exact payloadValues_of_creationBody hbody

/-- A creation that is for no other identifiers than accepted ones keeps objects addressable. -/
theorem keepsAddressable_of_isIdentifier
    (h : ∀ v, creationId? properties id = some v → IsIdentifier v) :
    o.KeepsAddressable properties id vector normalize := by
  refine ⟨fun clock answers call hcall v hv => ?_, fun v hv hnot => ?_⟩
  · rw [payloadValues_calls_create o properties id vector normalize clock answers call hcall,
      Option.mem_toList] at hv
    exact accepts_iff.mpr (h v hv)
  · exact absurd (accepts_iff.mpr (h v hv)) hnot

/-- A creation whose body is made sends the identifier. -/
theorem KeepsAddressable.isIdentifier {body : Entries}
    (h : o.KeepsAddressable properties id vector normalize)
    (hbody : o.creationBody properties id vector normalize = .ok body)
    (hv : creationId? properties id = some v) : IsIdentifier v := by
  have hsent := h.sent (fun _ => .int 0) (fun _ => .ok .null)
  rw [StoreOperation.calls_create_of_ok hbody, List.forall_mem_singleton,
    payloadValues_of_creationBody hbody, hv] at hsent
  exact accepts_iff.mp (hsent v (List.mem_singleton_self v))

/-- A creation that is refused with an identifier that is not accepted is objected to. -/
theorem KeepsAddressable.className {e : Failure}
    (h : o.KeepsAddressable properties id vector normalize)
    (hbody : o.creationBody properties id vector normalize = .error e)
    (hv : creationId? properties id = some v) (hnot : ¬ IsIdentifier v) :
    e.className = "ValidationError" := by
  obtain ⟨e', hclass, hrun⟩ := h.refused v hv (accepts_iff.not.mpr hnot)
  have hsame := hrun (fun _ => .int 0) (fun _ => .ok .null)
  rw [StoreOperation.run_create_of_error hbody, Prod.mk.injEq, Except.error.injEq] at hsame
  rw [hsame.1]
  exact hclass

/-- `creationBody` objects to properties that are no mapping, and to a vector. -/
theorem creationBody_invalid_iff (o : Objects) (properties id vector : Value) (normalize : Bool) :
    (∃ e, o.creationBody properties id vector normalize = .error e ∧
        e.className = "ValidationError") ↔
      (∀ es, properties ≠ .dict es) ∨
        ∃ e, vectorFor vector normalize = .error e ∧ e.className = "ValidationError" := by
  by_cases hdict : ∃ es, properties = .dict es
  · obtain ⟨es, rfl⟩ := hdict
    rw [creationBody_dict]
    cases vectorFor vector normalize <;> simp [Except.map]
  · have hbody : ∃ i, o.creationBody properties id vector normalize = .error (.invalid i) := by
      cases properties with
      | dict es => exact absurd ⟨es, rfl⟩ hdict
      | _ => exact ⟨_, rfl⟩
    obtain ⟨i, hi⟩ := hbody
    exact iff_of_true ⟨_, hi, rfl⟩ (.inl fun es h => hdict ⟨es, h⟩)

/-- Reading, changing, deleting and looking for an object accept the texts that are not empty as its
identifier and refuse anything else. A creation sends the identifier that it is for, whatever it is.
So it keeps objects addressable exactly if that is such a text, if there is one at all, or if the
creation is objected to for its properties or its vector. -/
theorem keepsAddressable_iff (o : Objects) (properties id vector : Value) (normalize : Bool) :
    (∀ v, IsIdentifier v ∧ o.Accepts v ∨ ¬ IsIdentifier v ∧ o.Refuses v) ∧
      (∀ clock answers,
        ∀ call ∈ (StoreOperation.create o properties id vector normalize).calls clock answers,
          payloadValues "id" call.payload = (creationId? properties id).toList) ∧
      (o.KeepsAddressable properties id vector normalize ↔
        (∀ v, creationId? properties id = some v → IsIdentifier v) ∨
          (∀ es, properties ≠ .dict es) ∨
            ∃ e, vectorFor vector normalize = .error e ∧ e.className = "ValidationError") := by
  refine ⟨accepts_or_refuses o, payloadValues_calls_create o properties id vector normalize, ?_⟩
  rw [← creationBody_invalid_iff o properties id vector normalize]
  constructor
  · intro h
    by_cases hidentifier : ∀ v, creationId? properties id = some v → IsIdentifier v
    · exact .inl hidentifier
    · -- Something else would be created with: only an objection may keep it from being sent.
      obtain ⟨v, hv, hnot⟩ : ∃ v, creationId? properties id = some v ∧ ¬ IsIdentifier v := by
        simpa using hidentifier
      cases hbody : o.creationBody properties id vector normalize with
      | error e => exact .inr ⟨e, rfl, h.className hbody hv hnot⟩
      | ok body => exact absurd (h.isIdentifier hbody hv) hnot
  · rintro (hidentifier | ⟨e, hbody, hclass⟩)
    · exact keepsAddressable_of_isIdentifier hidentifier
    · have hrun := StoreOperation.run_create_of_error hbody
      refine ⟨fun clock answers call hcall => ?_, fun _ _ _ => ⟨e, hclass, hrun⟩⟩
      rw [StoreOperation.calls, hrun] at hcall
      cases hcall

/-- With `.int 5` as its identifier a new object is sent, and an object cannot be read by it. -/
theorem create_numbered :
    (StoreOperation.create ⟨"Article", none⟩ (.dict [(.text "title", .text "x")]) (.int 5) .null
        false).calls (fun _ => .int 0) (fun _ => .ok .null) =
      [⟨.post, "/v1/objects", .dict [(.text "class", .text "Article"),
        (.text "properties", .dict [(.text "title", .text "x")]), (.text "id", .int 5)]⟩] ∧
      (StoreOperation.get ⟨"Article", none⟩ (.int 5)).run (Journal.effects fun _ => .int 0)
        (Journal.connection fun _ => .ok .null) Journal.start =
          (.error (.invalid .badObjectId), Journal.start) ∧
      ¬ KeepsAddressable ⟨"Article", none⟩ (.dict [(.text "title", .text "x")]) (.int 5) .null
        false := by
  have hbody : creationBody ⟨"Article", none⟩ (.dict [(.text "title", .text "x")]) (.int 5) .null
      false = .ok [(.text "class", .text "Article"),
        (.text "properties", .dict [(.text "title", .text "x")]), (.text "id", .int 5)] := by
    rw [creationBody_dict]
    rfl
  have hnot : ¬ IsIdentifier (.int 5) := nofun
  exact ⟨StoreOperation.calls_create_of_ok hbody _ _,
    refuses_of_not_isIdentifier hnot _ _ .get _ _, fun h => hnot (h.isIdentifier hbody rfl)⟩

end Objects

end ObjectStore
