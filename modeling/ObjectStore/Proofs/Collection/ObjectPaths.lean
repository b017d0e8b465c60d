import Mathlib
import ObjectStore.Proofs.Collection.CheckedFirst
import ObjectStore.Proofs.Text.PathSegments
import ObjectStore.Proofs.Text.Words

/-! # Paths of objects

An object is addressed by four segments, the last of which is its identifier in percent-encoded
form, and by a tenant, which stands in the query part of the path or in the parameters. The three
are read back from what is sent. Two identifiers are their own form and are dot segments: what they
address is the collection or the root, once dot segments are removed.

* `Call.Addresses`: the object and the tenant that a call addresses, `Call.Addresses.unique`: that
  its target tells them.
* `StoreOperation.IsOn`: the operations on an object.
* `StoreOperation.calls_address`: that their calls address it.
* `StoreOperation.removeDots_calls`: what their paths are without dot segments. -/

namespace ObjectStore

open Text.Path (rooted splitOn_rooted isDots removeDots removeDots_eq_self)

/-! ## What a call addresses -/

namespace Call

/-- The parameters of `c`. -/
def params (c : Call) : Value := if c.method = .get then c.payload else .null

/-- What `c` is directed at: its path with the query part, and its parameters. -/
def target (c : Call) : String × Value := (c.path, c.params)

/-- That `path` is that of an object in `collection`: below the root and the collection there is one
segment, which is decoded to `id`. -/
def IsObjectPath (collection id : String) (path : List Char) : Prop :=
  ∃ segment, path.splitOn '/' =
      [[], "v1".toList, "objects".toList, collection.toList, segment] ∧
    Text.Percent.decode? segment = some id

/-- That query parts and parameters name a tenant at one place, or none at all. -/
inductive NamesTenant : Option String → List (List Char) → Value → Prop
  | none : NamesTenant none [] .null
  | inQuery {form : List Char} {t : String} (h : Text.Percent.decode? form = some t) :
    NamesTenant (some t) ["tenant=".toList ++ form] .null
  | inParams (t : String) : NamesTenant (some t) [] (.dict [(.text "tenant", .text t)])

/-- That `c` addresses the object `id` of `tenant`: what is before its first question mark is the
path of the object, and what is after it, or else the parameters, name the tenant. -/
def Addresses (c : Call) (collection id : String) (tenant : Option String) : Prop :=
  ∃ path query, c.path.toList.splitOn '?' = path :: query ∧ IsObjectPath collection id path ∧
    NamesTenant tenant query c.params

variable {collection collection' id id' : String} {tenant tenant' : Option String}

/-- `IsObjectPath collection id path`: a path determines the collection and the identifier. -/
theorem IsObjectPath.unique {path : List Char} (h : IsObjectPath collection id path)
    (h' : IsObjectPath collection' id' path) : collection = collection' ∧ id = id' := by
  obtain ⟨segment, hsplit, hid⟩ := h
  obtain ⟨segment', hsplit', hid'⟩ := h'
  rw [hsplit] at hsplit'
  simp only [List.cons.injEq, true_and, and_true] at hsplit'
  obtain ⟨hcollection, rfl⟩ := hsplit'
  rw [hid, Option.some.injEq] at hid'
  exact ⟨String.toList_inj.mp hcollection, hid'⟩

/-- The root `/v1/objects/` is not the path of an object: there is no segment for one. -/
theorem not_isObjectPath_root (collection id : String) :
    ¬ IsObjectPath collection id "/v1/objects/".toList := by
  rintro ⟨segment, hsplit, -⟩
  have hroot : ("/v1/objects/".toList).splitOn '/' =
      [[], "v1".toList, "objects".toList, []] := by decide
  rw [hroot] at hsplit
  simpa using congrArg List.length hsplit

/-- `NamesTenant tenant query params`: A query part and parameters name one tenant, or none. -/
theorem NamesTenant.unique {query : List (List Char)} {params : Value}
    (h : NamesTenant tenant query params) (h' : NamesTenant tenant' query params) :
    tenant = tenant' := by
  -- The query part and the parameters become variables, so that both derivations can be taken
  -- apart.
  generalize hparts : query = parts at h'
  generalize hvalue : params = value at h'
  cases h with
  | none =>
    cases h' with
    | none => rfl
    | inQuery => cases hparts
    | inParams => cases hvalue
  | inQuery ht =>
    cases h' with
    | none => cases hparts
    | inQuery ht' =>
      simp only [List.cons.injEq, List.append_cancel_left_eq, and_true] at hparts
      rw [← ht, ← ht', hparts]
    | inParams => cases hparts
  | inParams t =>
    cases h' with
    | none => cases hvalue
    | inQuery => cases hparts
    | inParams => cases hvalue; rfl

/-- `c.target = c'.target`: calls with the same target address the same object of the same
tenant. -/
theorem Addresses.unique {c c' : Call} (h : c.Addresses collection id tenant)
    (h' : c'.Addresses collection' id' tenant') (htarget : c.target = c'.target) :
    collection = collection' ∧ id = id' ∧ tenant = tenant' := by
  obtain ⟨hpath, hparams⟩ := Prod.mk.inj htarget
  obtain ⟨path, query, hsplit, hobject, htenant⟩ := h
  obtain ⟨path', query', hsplit', hobject', htenant'⟩ := h'
  rw [hpath, hsplit', List.cons.injEq] at hsplit
  obtain ⟨rfl, rfl⟩ := hsplit
  obtain ⟨hcollection, hid⟩ := hobject.unique hobject'
  exact ⟨hcollection, hid, htenant.unique (hparams ▸ htenant')⟩

end Call

/-! ## The paths that are sent -/

/-- The calls that are made for the object `id`. -/
inductive Objects.Sends (o : Objects) (id : String) : Call → Prop
  | withParams {c : Call} (hpath : c.path = String.ofList (o.pathOf id))
    (hparams : c.params = o.tenantParams) : Sends o id c
  | inQuery {c : Call} (hpath : c.path = String.ofList (o.inTenant (o.pathOf id)))
    (hparams : c.params = .null) : Sends o id c

namespace Objects

open Call (not_mem_encode)

variable {o : Objects} {id : String}

/-- The segments of the path of the object `id`. -/
def segments (o : Objects) (id : String) : List (List Char) :=
  ["v1".toList, "objects".toList, o.collection.toList, Text.Percent.encode id.toList]

/-- `o.pathOf id = rooted (o.segments id)`: a path is its four segments, each behind a slash. -/
theorem pathOf_eq_rooted (o : Objects) (id : String) : o.pathOf id = rooted (o.segments id) := by
  simp [pathOf, root, rooted, segments, List.intercalate]

/-- `isDots (encode id)` for the identifiers `.` and `..` only: other characters are not dots when
they are encoded. -/
theorem isDots_encode : isDots (Text.Percent.encode id.toList) = true ↔ id = "." ∨ id = ".." := by
  have hdot : Text.Percent.encode id.toList = ['.'] ↔ id = "." :=
    Text.Percent.encode_toList_eq_iff (by simp; decide)
  have hdots : Text.Percent.encode id.toList = ['.', '.'] ↔ id = ".." :=
    Text.Percent.encode_toList_eq_iff (by simp; decide)
  rw [isDots, Bool.or_eq_true, decide_eq_true_eq, decide_eq_true_eq, hdot, hdots]

section

variable (hname : Validate.collectionName (.text o.collection) = .ok o.collection)

include hname

/-- A collection's name has no characters but those of names, and a line feed. -/
theorem not_mem_collection {c : Char} (hc : Validate.isNameChar c = false) (hfeed : c ≠ '\n') :
    c ∉ o.collection.toList := by
  have hisName := (collectionName_eq_ok hname).2
  have hnot : c ∉ Validate.dropFinalLineFeed o.collection.toList := by
    intro hmem
    rw [(Validate.isNameChar_of_isName hisName).2 c hmem] at hc
    cases hc
  rcases eq_dropFinalLineFeed o.collection.toList with h | h
  · rwa [h]
  · rw [h]
    simpa using ⟨hnot, hfeed⟩

/-- `'/' ∉ s` for each segment `s` of an object's path. -/
theorem not_mem_segments (id : String) : ∀ s ∈ o.segments id, '/' ∉ s := by
  have hcollection : '/' ∉ o.collection.toList := not_mem_collection hname (by decide) (by decide)
  have hid : '/' ∉ Text.Percent.encode id.toList := not_mem_encode (by decide) (by decide)
  simpa [segments] using ⟨hcollection, hid⟩

/-- `isDots o.collection.toList = false`: only the last segment may be a dot segment. -/
theorem isDots_collection : isDots o.collection.toList = false := by
  have hdot : '.' ∉ o.collection.toList := not_mem_collection hname (by decide) (by decide)
  by_contra h
  rw [Bool.not_eq_false, isDots, Bool.or_eq_true, decide_eq_true_eq, decide_eq_true_eq] at h
  rcases h with h | h <;> simp [h] at hdot

/-- `o.pathOf id` is the path of the object `id` of `o.collection`. -/
theorem isObjectPath_pathOf (id : String) : Call.IsObjectPath o.collection id (o.pathOf id) := by
  refine ⟨Text.Percent.encode id.toList, ?_, Text.Percent.decode?_encode_toList id⟩
  rw [pathOf_eq_rooted, splitOn_rooted (by simp [segments]) (not_mem_segments hname id), segments]

/-- There is no question mark in `o.pathOf id`. -/
theorem splitOn_pathOf_append (id : String) (query : List Char) :
    (o.pathOf id ++ '?' :: query).splitOn '?' = o.pathOf id :: query.splitOn '?' := by
  have hplain := isPlain_pathOf (collectionName_eq_ok hname).2 id
  exact List.splitOn_append_cons_self_of_not_mem (fun h => (hplain _ h).1 rfl) query

/-- `(o.pathOf id).splitOn '?' = [o.pathOf id]`: an object's path has no question mark. -/
theorem splitOn_pathOf (id : String) : (o.pathOf id).splitOn '?' = [o.pathOf id] := by
  have hplain := isPlain_pathOf (collectionName_eq_ok hname).2 id
  exact List.splitOn_eq_singleton fun h => (hplain _ h).1 rfl

/-- `o.Sends id c`: the call has the path of the object before its first question mark, and names
the tenant after it or in its parameters. -/
theorem Sends.exists_query {c : Call} (h : o.Sends id c) :
    ∃ query, c.path.toList.splitOn '?' = o.pathOf id :: query ∧
      Call.NamesTenant o.tenant query c.params := by
  cases h with
  | withParams hpath hparams =>
    rw [hpath, hparams, String.toList_ofList, splitOn_pathOf hname, tenantParams]
    cases o.tenant with
    | none => exact ⟨[], rfl, .none⟩
    | some t => exact ⟨[], rfl, .inParams t⟩
  | inQuery hpath hparams =>
    rw [hpath, hparams, String.toList_ofList]
    cases htenant : o.tenant with
    | none =>
      rw [inTenant, htenant]
      exact ⟨[], splitOn_pathOf hname id, .none⟩
    | some t =>
      -- The form has no question mark that would divide the query part further.
      have hmark : '?' ∉ "tenant=".toList ++ Text.Percent.encode t.toList :=
        List.mem_append.not.mpr (not_or_intro (by simp) (not_mem_encode (by decide) (by decide)))
      have hpart : o.inTenant (o.pathOf id) =
          o.pathOf id ++ '?' :: ("tenant=".toList ++ Text.Percent.encode t.toList) := by
        simp [inTenant, htenant]
      refine ⟨_, ?_, .inQuery (Text.Percent.decode?_encode_toList t)⟩
      rw [hpart, splitOn_pathOf_append hname, List.splitOn_eq_singleton hmark]

/-- A call that `o` sends for the object `id` addresses it: its collection, its identifier, its
tenant. -/
theorem Sends.addresses {c : Call} (h : o.Sends id c) :
    c.Addresses o.collection id o.tenant := by
  obtain ⟨query, hsplit, htenant⟩ := h.exists_query hname
  exact ⟨_, query, hsplit, isObjectPath_pathOf hname id, htenant⟩

/-! ## Identifiers that are dot segments -/

/-- `removeDots (o.pathOf id) = o.pathOf id` unless the identifier is `.` or `..`. -/
theorem removeDots_pathOf (hdot : id ≠ ".") (hdots : id ≠ "..") :
    removeDots (o.pathOf id) = o.pathOf id := by
  have hid : isDots (Text.Percent.encode id.toList) = false := by
    rw [← Bool.not_eq_true, isDots_encode, not_or]
    exact ⟨hdot, hdots⟩
  have hall : ∀ s ∈ o.segments id, isDots s = false := by
    simpa [segments] using ⟨by decide, by decide, isDots_collection hname, hid⟩
  rw [pathOf_eq_rooted, removeDots_eq_self (by simp [segments]) (not_mem_segments hname id) hall]

/-- `removeDots (o.pathOf ".")` is the path of the collection. -/
theorem removeDots_pathOf_dot :
    removeDots (o.pathOf ".") = ("/v1/objects/" ++ o.collection ++ "/").toList := by
  have hslash : '/' ∉ o.collection.toList := not_mem_collection hname (by decide) (by decide)
  have hpath : o.pathOf "." =
      rooted (["v1".toList, "objects".toList, o.collection.toList] ++ [['.']]) := by
    rw [pathOf_eq_rooted, segments, Text.Percent.encode_of_isUnreserved (by simp; decide)]
    simp
  rw [hpath, Text.Path.removeDots_rooted_dot (by simpa using hslash)
    (by simpa using ⟨by decide, by decide, isDots_collection hname⟩)]
  simp [rooted, List.intercalate]

/-- `removeDots (o.pathOf "..")` is the root. -/
theorem removeDots_pathOf_dots : removeDots (o.pathOf "..") = "/v1/objects/".toList := by
  have hslash : '/' ∉ o.collection.toList := not_mem_collection hname (by decide) (by decide)
  have hpath : o.pathOf ".." =
      rooted (["v1".toList, "objects".toList] ++ [o.collection.toList] ++ [['.', '.']]) := by
    rw [pathOf_eq_rooted, segments, Text.Percent.encode_of_isUnreserved (by simp; decide)]
    simp
  rw [hpath, Text.Path.removeDots_rooted_dots (by simpa using hslash)
    (by simpa using ⟨by decide, by decide, isDots_collection hname⟩)]
  simp [rooted, List.intercalate]

/-- `removeDots (o.pathOf id)` is still the path of the object, unless the identifier is a dot
segment itself. -/
theorem isObjectPath_removeDots_pathOf (id : String) :
    Call.IsObjectPath o.collection id (removeDots (o.pathOf id)) ↔ id ≠ "." ∧ id ≠ ".." := by
  constructor
  · rintro hobject
    constructor <;> rintro rfl
    · -- What is left is the path of no identifier at all.
      have hempty : Call.IsObjectPath o.collection "" (removeDots (o.pathOf ".")) := by
        have hpath : removeDots (o.pathOf ".") = o.pathOf "" := by
          rw [removeDots_pathOf_dot hname]
          simp [pathOf, root]
        exact hpath ▸ isObjectPath_pathOf hname ""
      exact absurd (hobject.unique hempty).2 (by decide)
    · rw [removeDots_pathOf_dots hname] at hobject
      exact Call.not_isObjectPath_root _ _ hobject
  · rintro ⟨hdot, hdots⟩
    rw [removeDots_pathOf hname hdot hdots]
    exact isObjectPath_pathOf hname id

end

end Objects

/-! ## Operations on objects -/

namespace Objects

variable {id : String} (hid : id ≠ "")

include hid

/-- `o.objectPath (.text id) = .ok (o.pathOf id)` for an identifier. -/
theorem objectPath_text (o : Objects) : o.objectPath (.text id) = .ok (o.pathOf id) := by
  rw [objectPath, idOf, if_neg (by simpa using hid)]
  rfl

/-- `o.scopedPath (.text id)` is the path of the object, with the tenant in its query part. -/
theorem scopedPath_text (o : Objects) :
    o.scopedPath (.text id) = .ok (String.ofList (o.inTenant (o.pathOf id))) := by
  rw [scopedPath, objectPath_text hid]
  rfl

end Objects

namespace StoreOperation

/-- The operations on the object `id` of `o`. -/
inductive Concerns (o : Objects) (id : String) : StoreOperation → Prop
  | get : Concerns o id (.get o (.text id))
  | update (properties : Value) : Concerns o id (.update o (.text id) properties)
  | delete : Concerns o id (.delete o (.text id))
  | exists? : Concerns o id (.exists? o (.text id))

/-- That `op` is an operation on the object `id` of `o`, where `id` is not empty and the collection
has an accepted name. -/
structure IsOn (o : Objects) (id : String) (op : StoreOperation) : Prop where
  concerns : op.Concerns o id
  collection : Validate.collectionName (.text o.collection) = .ok o.collection
  id_ne : id ≠ ""

/-- The calls that `op` makes, given the `answers` to them. -/
def calls (op : StoreOperation) (clock : Nat → Number) (answers : Nat → Except Failure Value) :
    List Call :=
  (op.run (Journal.effects clock) (Journal.connection answers) Journal.start).2.calls

variable {o : Objects} {id : String} {op : StoreOperation}

/-- What `op.run` does on an object: it makes one call for the object, and an update makes a second
one, or none if its body is refused. -/
theorem Concerns.run_eq (h : op.Concerns o id) (hid : id ≠ "") :
    (∃ call, o.Sends id call ∧ ∀ {σ : Type} (fx : Effects σ) (connection : Connection σ),
      op.run fx connection = connection.perform call) ∨
    (∃ call call', o.Sends id call ∧ o.Sends id call' ∧
      ∀ {σ : Type} (fx : Effects σ) (connection : Connection σ),
        op.run fx connection = (connection.perform call >>= fun _ => connection.perform call')) ∨
    ∃ properties e, op = .update o (.text id) properties ∧ o.updateBody properties = .error e ∧
      ∀ {σ : Type} (fx : Effects σ) (connection : Connection σ),
        op.run fx connection = Action.done (.error e) := by
  have hget : ∀ {σ : Type} (connection : Connection σ), o.get connection (.text id) =
      connection.perform ⟨.get, String.ofList (o.pathOf id), o.tenantParams⟩ := by
    intro σ connection
    rw [Objects.get, Objects.objectPath_text hid]
    rfl
  cases h with
  | get => exact .inl ⟨_, .withParams rfl rfl, fun _ => hget⟩
  | delete =>
    refine .inl ⟨⟨.delete, _, .null⟩, .inQuery rfl rfl, fun _ connection => ?_⟩
    rw [run, Objects.delete, Objects.scopedPath_text hid]
    rfl
  | exists? =>
    refine .inl ⟨⟨.head, _, .null⟩, .inQuery rfl rfl, fun _ connection => ?_⟩
    rw [run, Objects.exists?, Objects.scopedPath_text hid]
    rfl
  | update properties =>
    -- The body is looked at before the identifier, and a refused one stops both calls.
    cases hbody : o.updateBody properties with
    | error e =>
      refine .inr (.inr ⟨properties, e, rfl, hbody, fun _ connection => ?_⟩)
      rw [run, Objects.update, hbody]
      rfl
    | ok body =>
      refine .inr (.inl ⟨⟨.patch, String.ofList (o.inTenant (o.pathOf id)), .dict body⟩,
        ⟨.get, String.ofList (o.pathOf id), o.tenantParams⟩, .inQuery rfl rfl, .withParams rfl rfl,
        fun _ connection => ?_⟩)
      rw [run, Objects.update, hbody, Objects.scopedPath_text hid, ← hget]
      rfl

/-- `op.calls` on an object are made for it. There are some, unless the operation is an update whose
body is refused. -/
theorem IsOn.calls (h : op.IsOn o id) (clock : Nat → Number)
    (answers : Nat → Except Failure Value) :
    (op.calls clock answers ≠ [] ∨
      ∃ properties e, op = .update o (.text id) properties ∧ o.updateBody properties = .error e) ∧
    ∀ call ∈ op.calls clock answers, o.Sends id call := by
  rcases h.concerns.run_eq h.id_ne with ⟨call, hcall, hrun⟩ | ⟨call, call', hcall, hcall', hrun⟩ |
    ⟨properties, e, hop, hbody, hrun⟩
  · have hcalls : op.calls clock answers = [call] := by
      rw [StoreOperation.calls, hrun]
      rfl
    rw [hcalls]
    exact ⟨.inl (List.cons_ne_nil _ _), by simpa using hcall⟩
  · obtain ⟨made, hmade, hsends⟩ : ∃ made, op.calls clock answers = call :: made ∧
        ∀ c ∈ made, o.Sends id c := by
      rw [StoreOperation.calls, hrun, Action.bind_run]
      -- The second call is made if the first one is answered.
      have hfirst : (Journal.connection answers).perform call Journal.start =
          (answers 0, Journal.start.add (.call call)) := rfl
      rw [hfirst]
      cases answers 0 with
      | error e => exact ⟨[], rfl, by simp⟩
      | ok x => exact ⟨[call'], rfl, by simpa using hcall'⟩
    rw [hmade]
    exact ⟨.inl (List.cons_ne_nil _ _), List.forall_mem_cons.mpr ⟨hcall, hsends⟩⟩
  · have hcalls : op.calls clock answers = [] := by
      rw [StoreOperation.calls, hrun]
      rfl
    rw [hcalls]
    exact ⟨.inr ⟨properties, e, hop, hbody⟩, by simp⟩

/-- Every call of `op.calls` on an object addresses the object and its tenant, and so it has another
target than each call of an operation on another object, in another collection or of another tenant.
There are such calls, unless the operation is an update whose body is refused. -/
theorem calls_address (h : op.IsOn o id) (clock : Nat → Number)
    (answers : Nat → Except Failure Value) :
    (op.calls clock answers ≠ [] ∨
      ∃ properties e, op = .update o (.text id) properties ∧ o.updateBody properties = .error e) ∧
    ∀ call ∈ op.calls clock answers, call.Addresses o.collection id o.tenant ∧
      ∀ (op' : StoreOperation) (o' : Objects) (id' : String), op'.IsOn o' id' →
        ∀ (clock' : Nat → Number) (answers' : Nat → Except Failure Value),
          ∀ call' ∈ op'.calls clock' answers', call.target = call'.target →
            o.collection = o'.collection ∧ id = id' ∧ o.tenant = o'.tenant := by
  refine ⟨(h.calls clock answers).1, fun call hcall => ?_⟩
  have haddress := ((h.calls clock answers).2 call hcall).addresses h.collection
  refine ⟨haddress, fun op' o' id' h' clock' answers' call' hcall' htarget => ?_⟩
  have haddress' := ((h'.calls clock' answers').2 call' hcall').addresses h'.collection
  exact haddress.unique haddress' htarget

/-- The calls for an article of a tenant, whose name has a question mark and an ampersand and whose
identifier has a slash. -/
theorem calls_address_article :
    ∃ call ∈ (get ⟨"Article", some "a&b?"⟩ (.text "a/b")).calls (fun _ => .int 0)
        (fun _ => .ok .null),
      call.Addresses "Article" "a/b" (some "a&b?") := by
  have hon : (get ⟨"Article", some "a&b?"⟩ (.text "a/b")).IsOn ⟨"Article", some "a&b?"⟩ "a/b" :=
    ⟨.get, rfl, by decide⟩
  obtain ⟨hne | ⟨properties, e, hop, -⟩, hall⟩ :=
    calls_address hon (fun _ => .int 0) fun _ => .ok .null
  · obtain ⟨call, hcall⟩ := List.exists_mem_of_ne_nil _ hne
    exact ⟨call, hcall, (hall call hcall).1⟩
  · cases hop

/-- Without its dot segments, by `removeDots`, the path of a call for an object, up to the question
mark, is still the path of the object, unless the identifier is a dot segment itself. If it is one
dot, the path is that of the collection, and if it is two dots, that of the root. -/
theorem removeDots_calls (h : op.IsOn o id) (clock : Nat → Number)
    (answers : Nat → Except Failure Value) :
    ∀ call ∈ op.calls clock answers, ∀ path query, call.path.toList.splitOn '?' = path :: query →
      (Call.IsObjectPath o.collection id (removeDots path) ↔ id ≠ "." ∧ id ≠ "..") ∧
        (id = "." → removeDots path = ("/v1/objects/" ++ o.collection ++ "/").toList) ∧
        (id = ".." → removeDots path = "/v1/objects/".toList) := by
  intro call hcall path query hsplit
  obtain ⟨query', hsplit', -⟩ :=
    ((h.calls clock answers).2 call hcall).exists_query h.collection
  rw [hsplit, List.cons.injEq] at hsplit'
  obtain ⟨rfl, -⟩ := hsplit'
  refine ⟨Objects.isObjectPath_removeDots_pathOf h.collection id, ?_, ?_⟩
  · rintro rfl
    exact Objects.removeDots_pathOf_dot h.collection
  · rintro rfl
    exact Objects.removeDots_pathOf_dots h.collection

/-- An identifier of three dots stays in its collection. -/
theorem removeDots_calls_threeDots :
    ∃ call ∈ (get ⟨"Article", none⟩ (.text "...")).calls (fun _ => .int 0) (fun _ => .ok .null),
      ∀ path query, call.path.toList.splitOn '?' = path :: query →
        Call.IsObjectPath "Article" "..." (removeDots path) := by
  have hon : (get ⟨"Article", none⟩ (.text "...")).IsOn ⟨"Article", none⟩ "..." :=
    ⟨.get, rfl, by decide⟩
  have hcalls : (get ⟨"Article", none⟩ (.text "...")).calls (fun _ => .int 0) (fun _ => .ok .null) =
      [⟨.get, "/v1/objects/Article/...", .null⟩] := rfl
  have hcall := hcalls ▸ List.mem_singleton_self _
  refine ⟨_, hcall, fun path query hsplit => ?_⟩
  exact (removeDots_calls hon _ _ _ hcall path query hsplit).1.mpr (by decide)

/-- The deletion of the object with two dots as its identifier leaves the collection. -/
theorem calls_delete_twoDots :
    (delete ⟨"Article", none⟩ (.text "..")).IsOn ⟨"Article", none⟩ ".." ∧
      (delete ⟨"Article", none⟩ (.text "..")).calls (fun _ => .int 0) (fun _ => .ok .null) =
        [⟨.delete, "/v1/objects/Article/..", .null⟩] ∧
      removeDots "/v1/objects/Article/..".toList = "/v1/objects/".toList ∧
      ¬ Call.IsObjectPath "Article" ".." (removeDots "/v1/objects/Article/..".toList) := by
  have hon : (delete ⟨"Article", none⟩ (.text "..")).IsOn ⟨"Article", none⟩ ".." :=
    ⟨.delete, rfl, by decide⟩
  have hroot : removeDots "/v1/objects/Article/..".toList = "/v1/objects/".toList := by decide
  exact ⟨hon, rfl, hroot, hroot ▸ Call.not_isObjectPath_root "Article" ".."⟩

end StoreOperation

end ObjectStore
