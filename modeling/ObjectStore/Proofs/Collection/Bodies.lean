import Mathlib
import ObjectStore.Proofs.Collection.ObjectPaths
import ObjectStore.Proofs.Query.Envelope

/-! # Bodies of objects

An object is created with its properties apart from the identifier among them, which has a place of
its own in the body, and is updated with its properties as they are given. So what a query returned,
where the identifier is one of the properties, can be given back to a creation; an update of it
sends the identifier as a property.

* `Objects.creationBody_dict`, `Objects.updateBody_dict`: the bodies, entry by entry.
* `Call.written`: the properties that calls write.
* `StoreOperation.written_own_iff`: when these are the properties apart from the identifier. -/

namespace ObjectStore

open Call (payloadValues)

/-- A value that is there; `.null` is none. -/
def Value.present? : Value → Option Value
  | null => none
  | v => some v

namespace Objects

/-! ## Bodies entry by entry -/

/-- The entries of an object apart from its `id`. -/
def ownProperties (es : Entries) : Entries := es.filter fun e => e.1.text? ≠ some "id"

/-- The identifier that a creation is for: `id`, which is asked for, or else the one among the
properties `es`. Null is none at either place. -/
def identifierFor (es : Entries) (id : Value) : Option Value :=
  id.present?.or ((Entries.getText? "id" es).bind Value.present?)

/-- The vector that a creation is for, if there is one. -/
def vectorFor (vector : Value) (normalize : Bool) : Except Failure (Option (List Double)) :=
  match vector.present? with
  | none => .ok none
  | some v => (Vector.coerce v normalize).map some

/-- The entry of `key`, which may have a value. -/
def entryOf (key : String) (v : Option Value) : Entries := (v.map fun v => (.text key, v)).toList

/-- The body of a creation: the collection, the properties `es` without the identifier, and then the
identifier, the vector and the tenant, each if there is one. -/
def creationEntries (o : Objects) (es : Entries) (id : Option Value)
    (vector : Option (List Double)) : Entries :=
  (.text "class", .text o.collection) :: (.text "properties", .dict (ownProperties es)) ::
    (entryOf "id" id ++ entryOf "vector" (vector.map fun xs => .list (xs.map .double)) ++
      entryOf "tenant" (o.tenant.map .text))

/-- The body of an update: the collection, the properties `es`, and then the tenant if there is
one. -/
def updateEntries (o : Objects) (es : Entries) : Entries :=
  (.text "class", .text o.collection) :: (.text "properties", .dict es) ::
    entryOf "tenant" (o.tenant.map .text)

/-- The `body` with the value `v` under `key`, unless `v` is null. -/
def putPresent (key : String) (v : Value) (body : Entries) : Entries :=
  match v with
  | .null => body
  | v => body.putText key v

/-- `putPresent key v body = body ++ entryOf key v.present?`: what is put under a new key comes
last. -/
theorem putPresent_of_forall_ne {key : String} {body : Entries} (h : ∀ e ∈ body, e.1 ≠ .text key)
    (v : Value) : putPresent key v body = body ++ entryOf key v.present? := by
  cases v with
  | null => exact (List.append_nil body).symm
  | _ => exact Entries.putText_of_forall_ne h

/-- `o.withTenant body` is the body with the tenant's entry at its end, if it had none before. -/
theorem withTenant_of_forall_ne (o : Objects) {body : Entries}
    (h : ∀ e ∈ body, e.1 ≠ .text "tenant") :
    o.withTenant body = body ++ entryOf "tenant" (o.tenant.map .text) := by
  rw [withTenant]
  cases o.tenant with
  | none => exact (List.append_nil body).symm
  | some t => exact Entries.putText_of_forall_ne h

/-- The one entry of `entryOf key v` is the value under its key, if there is a value. -/
theorem mem_entryOf {key : String} {v : Option Value} {e : Value × Value} :
    e ∈ entryOf key v ↔ ∃ w, v = some w ∧ (.text key, w) = e := by
  simp [entryOf]

/-- The value that an identifier is asked for with, or else the one among the properties. -/
def idValue (es : Entries) (id : Value) : Value :=
  match id with
  | .null => (Entries.getText? "id" es).getD .null
  | id => id

/-- `(idValue es id).present? = identifierFor es id`: the identifier that is sent is the one asked
for. -/
theorem present?_idValue (es : Entries) (id : Value) :
    (idValue es id).present? = identifierFor es id := by
  cases id with
  | null => cases h : Entries.getText? "id" es <;> simp [idValue, identifierFor, Value.present?, h]
  | _ => rfl

/-- The parts of a body are put one after the other. -/
theorem creationBody_eq_map (o : Objects) (es : Entries) (id vector : Value) (normalize : Bool) :
    o.creationBody (.dict es) id vector normalize = (vectorFor vector normalize).map fun xs =>
      o.withTenant (putPresent "vector" (xs.elim .null fun xs => .list (xs.map .double))
        (putPresent "id" (idValue es id) [(.text "class", .text o.collection),
          (.text "properties", .dict (Entries.eraseText "id" es))])) := by
  by_cases hvector : vector = .null
  · subst hvector
    rfl
  · have hcoerce : vectorFor vector normalize = (Vector.coerce vector normalize).map some := by
      cases vector with
      | null => exact absurd rfl hvector
      | _ => rfl
    unfold creationBody
    dsimp only
    split
    · exact absurd rfl hvector
    · rw [hcoerce]
      cases Vector.coerce vector normalize <;> rfl

/-- `o.creationBody (.dict es) id vector normalize`: A creation is refused as its vector is;
otherwise its body is known entry by entry. -/
theorem creationBody_dict (o : Objects) (es : Entries) (id vector : Value) (normalize : Bool) :
    o.creationBody (.dict es) id vector normalize =
      (vectorFor vector normalize).map (o.creationEntries es (identifierFor es id)) := by
  rw [creationBody_eq_map]
  congr 1
  funext xs
  -- None of the keys is there before it is put.
  have hid : putPresent "id" (idValue es id) [(.text "class", .text o.collection),
      (.text "properties", .dict (Entries.eraseText "id" es))] =
      (.text "class", .text o.collection) :: (.text "properties", .dict (ownProperties es)) ::
        entryOf "id" (identifierFor es id) := by
    rw [putPresent_of_forall_ne (by simp), present?_idValue, Entries.eraseText_eq_filter]
    rfl
  have hvector : (xs.elim .null fun xs => .list (xs.map .double) : Value).present? =
      xs.map fun xs => .list (xs.map .double) := by
    cases xs <;> rfl
  rw [hid, putPresent_of_forall_ne, hvector, withTenant_of_forall_ne, creationEntries]
  · simp
  · simp [mem_entryOf, or_imp, forall_and]
  · simp [mem_entryOf]

/-- `o.updateBody (.dict es) = .ok (o.updateEntries es)`: properties that are a mapping are never
refused. -/
theorem updateBody_dict (o : Objects) (es : Entries) :
    o.updateBody (.dict es) = .ok (o.updateEntries es) :=
  congrArg Except.ok (withTenant_of_forall_ne o (by simp))

end Objects

/-! ## Values under a key -/

namespace Call

/-- Under a key stands what `entryOf` puts there, and nothing under another one. -/
theorem payloadValues_entryOf (key k : String) (v : Option Value) :
    payloadValues key (.dict (Objects.entryOf k v)) = if k = key then v.toList else [] := by
  cases v with
  | none => simp [payloadValues, Objects.entryOf]
  | some v => exact payloadValues_cons_text key k v []

end Call

namespace Objects

open Call

/-- A creation's body has the object's own properties under `properties`, and the identifier, if
there is one, under `id`. -/
theorem payloadValues_creationEntries (o : Objects) (es : Entries) (id : Option Value)
    (vector : Option (List Double)) :
    payloadValues "properties" (.dict (o.creationEntries es id vector)) =
        [.dict (ownProperties es)] ∧
      payloadValues "id" (.dict (o.creationEntries es id vector)) = id.toList := by
  simp [creationEntries, payloadValues_cons_text, payloadValues_append, payloadValues_entryOf]

/-- An update's body has all of the given properties under `properties`. -/
theorem payloadValues_updateEntries (o : Objects) (es : Entries) :
    payloadValues "properties" (.dict (o.updateEntries es)) = [.dict es] := by
  simp [updateEntries, payloadValues_cons_text, payloadValues_entryOf]

end Objects

/-! ## Properties that are written -/

/-- The properties that `calls` write, in order. -/
def Call.written (calls : List Call) : List Value :=
  calls.flatMap fun c => payloadValues "properties" c.payload

namespace StoreOperation

open Objects (ownProperties identifierFor vectorFor creationEntries)

variable {o : Objects} {es : Entries} {id vector : Value} {normalize : Bool}

/-- A creation makes one call, which posts its body, unless `creationBody` refuses. -/
theorem calls_create_of_ok {properties : Value} {body : Entries}
    (h : o.creationBody properties id vector normalize = .ok body) (clock : Nat → Number)
    (answers : Nat → Except Failure Value) :
    (create o properties id vector normalize).calls clock answers =
      [⟨.post, Objects.root, .dict body⟩] := by
  rw [calls, run, Objects.create, h]
  rfl

/-- A creation that `creationBody` refuses makes no call. -/
theorem run_create_of_error {properties : Value} {e : Failure}
    (h : o.creationBody properties id vector normalize = .error e) (clock : Nat → Number)
    (answers : Nat → Except Failure Value) :
    (create o properties id vector normalize).run (Journal.effects clock)
      (Journal.connection answers) Journal.start = (.error e, Journal.start) := by
  rw [run, Objects.create, h]
  rfl

/-- What a creation writes are `ownProperties es`, the object's own properties. -/
theorem written_create {xs : Option (List Double)}
    (hvector : vectorFor vector normalize = .ok xs) (clock : Nat → Number)
    (answers : Nat → Except Failure Value) :
    Call.written ((create o (.dict es) id vector normalize).calls clock answers) =
      [.dict (ownProperties es)] := by
  have hbody : o.creationBody (.dict es) id vector normalize =
      .ok (o.creationEntries es (identifierFor es id) xs) := by
    rw [Objects.creationBody_dict, hvector]
    rfl
  rw [calls_create_of_ok hbody, Call.written, List.flatMap_singleton]
  exact (Objects.payloadValues_creationEntries ..).1

/-- An update makes a call that writes `o.updateEntries es` and, once this is answered, a second one
that reads. -/
theorem calls_update {s : String} (hs : s ≠ "") (clock : Nat → Number)
    (answers : Nat → Except Failure Value) :
    (update o (.text s) (.dict es)).calls clock answers =
      ⟨.patch, String.ofList (o.inTenant (o.pathOf s)), .dict (o.updateEntries es)⟩ ::
        match answers 0 with
        | .ok _ => [⟨.get, String.ofList (o.pathOf s), o.tenantParams⟩]
        | .error _ => [] := by
  have hrun : (update o (.text s) (.dict es)).run (Journal.effects clock)
      (Journal.connection answers) =
      ((Journal.connection answers).perform ⟨.patch, String.ofList (o.inTenant (o.pathOf s)),
        .dict (o.updateEntries es)⟩ >>= fun _ => (Journal.connection answers).perform
          ⟨.get, String.ofList (o.pathOf s), o.tenantParams⟩) := by
    rw [run, Objects.update, Objects.updateBody_dict, Objects.scopedPath_text hs, Objects.get,
      Objects.objectPath_text hs]
    rfl
  rw [calls, hrun, Action.bind_run]
  have hfirst : ∀ call, (Journal.connection answers).perform call Journal.start =
      (answers 0, Journal.start.add (.call call)) := fun _ => rfl
  rw [hfirst]
  cases answers 0 <;> rfl

/-- What an update writes are the properties `es` that it is given. -/
theorem written_update {s : String} (hs : s ≠ "") (clock : Nat → Number)
    (answers : Nat → Except Failure Value) :
    Call.written ((update o (.text s) (.dict es)).calls clock answers) = [.dict es] := by
  have hparams : payloadValues "properties" o.tenantParams = [] := by
    cases htenant : o.tenant <;> simp [payloadValues, Objects.tenantParams, htenant, Value.text?]
  rw [calls_update hs, Call.written, List.flatMap_cons, Objects.payloadValues_updateEntries]
  cases answers 0 <;> simp [hparams]

end StoreOperation

/-! ## Properties with an identifier -/

/-- `ownProperties es = es`: nothing is left out exactly if the identifier is not among the
properties. -/
theorem Objects.ownProperties_eq_self_iff {es : Entries} :
    ownProperties es = es ↔ ∀ e ∈ es, e.1 ≠ .text "id" := by
  simp [ownProperties, List.filter_eq_self, Value.text?_eq_some_iff]

/-- `record es` has no `id` exactly if the object has none in its block of additions, nor of its
own. -/
theorem Response.record_forall_ne_iff {es : Entries} :
    (∀ e ∈ record es, e.1 ≠ .text "id") ↔
      identifier? es = none ∧ ∀ e ∈ ownEntries es, e.1 ≠ .text "id" := by
  cases hid : identifier? es with
  | none => simp [record_of_identifier?_eq_none hid]
  | some id =>
    have hmem : (.text "id", id) ∈ record es := by
      generalize hr : record es = r
      have hunwrapped := hr ▸ unwrapped_record es
      cases hunwrapped with
      | unnamed h => simp [h] at hid
      | inPlace h => simp [← Option.some.inj (h.symm.trans hid)]
      | last h => simp [← Option.some.inj (h.symm.trans hid)]
    constructor
    · exact fun h => absurd rfl (h _ hmem)
    · rintro ⟨h, -⟩
      cases h

namespace StoreOperation

open Objects (ownProperties vectorFor)

/-- A creation writes `ownProperties es`, the properties apart from the identifier, unless its
vector is refused. An update writes all of `es`, which is the same exactly if the identifier is not
among them. It is among those of a record exactly if the object has one in its block of additions,
or of its own. -/
theorem written_own_iff (o : Objects) (es : Entries) (clock : Nat → Number)
    (answers : Nat → Except Failure Value) :
    (∀ id vector normalize,
        (∃ e, vectorFor vector normalize = .error e) ∧
            (create o (.dict es) id vector normalize).calls clock answers = [] ∨
          Call.written ((create o (.dict es) id vector normalize).calls clock answers) =
            [.dict (ownProperties es)]) ∧
      ∀ s, s ≠ "" →
        Call.written ((update o (.text s) (.dict es)).calls clock answers) = [.dict es] ∧
        (Call.written ((update o (.text s) (.dict es)).calls clock answers) =
            [.dict (ownProperties es)] ↔ ∀ e ∈ es, e.1 ≠ .text "id") ∧
        (Call.written ((update o (.text s) (.dict (Response.record es))).calls clock answers) =
            [.dict (ownProperties (Response.record es))] ↔
          Response.identifier? es = none ∧ ∀ e ∈ Response.ownEntries es, e.1 ≠ .text "id") := by
  have hupdate : ∀ es s, s ≠ "" →
      (Call.written ((update o (.text s) (.dict es)).calls clock answers) =
        [.dict (ownProperties es)] ↔ ∀ e ∈ es, e.1 ≠ .text "id") := by
    intro es s hs
    rw [written_update hs, ← Objects.ownProperties_eq_self_iff]
    simp [eq_comm]
  refine ⟨fun id vector normalize => ?_, fun s hs => ⟨written_update hs clock answers,
    hupdate es s hs, (hupdate _ s hs).trans Response.record_forall_ne_iff⟩⟩
  cases hvector : vectorFor vector normalize with
  | error e =>
    refine .inl ⟨⟨e, rfl⟩, ?_⟩
    rw [calls, run_create_of_error (by rw [Objects.creationBody_dict, hvector]; rfl)]
    rfl
  | ok xs => exact .inr (written_create hvector clock answers)

/-- An article as the store sends it. -/
def sentArticle : Entries :=
  [(.text "title", .text "x"), (.text "_additional", .dict [(.text "id", .text "u1")])]

/-- An update with the record of `sentArticle` writes the identifier as a property. -/
theorem written_update_sentArticle :
    Response.record sentArticle = [(.text "title", .text "x"), (.text "id", .text "u1")] ∧
      Call.written ((update ⟨"Article", none⟩ (.text "u1")
        (.dict (Response.record sentArticle))).calls (fun _ => .int 0) fun _ => .ok .null) ≠
          [.dict (ownProperties (Response.record sentArticle))] := by
  have hrecord : Response.record sentArticle =
      [(.text "title", .text "x"), (.text "id", .text "u1")] := by
    have hid : Response.identifier? sentArticle = some (.text "u1") := by
      simp [Response.identifier?, sentArticle, Fields.metadataKey, Entries.getText?_cons_text]
    have hown : Response.ownEntries sentArticle = [(.text "title", .text "x")] := rfl
    rw [Response.record_of_identifier?_eq_some hid, hown]
    exact Entries.putText_of_forall_ne (by simp)
  refine ⟨hrecord, ?_⟩
  rw [hrecord, written_update (by decide)]
  simp [ownProperties, Value.text?]

end StoreOperation

end ObjectStore
