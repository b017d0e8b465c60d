import Mathlib
import ObjectStore.Objects
import ObjectStore.Proofs.Query.TenantArgument
import ObjectStore.Proofs.Text.PercentDecoding
import ObjectStore.Proofs.Value.Entries
import ObjectStore.Query.Fetch

/-! # The tenants of a call

A call may carry a tenant at three places: in a parameter of its path, percent-encoded, in a field
of its payload, and in an argument of the query that it posts. All three are read from the call
alone, whoever made it.

* `Call.tenants`: the tenants that a call carries.
* `Call.Carries`: that these are one tenant, or that there are none.
* `Objects.carries_get` and its likes, `Query.carries_payload`: what is sent for a tenant carries
  it. -/

namespace ObjectStore

/-! ## Reading the tenants -/

namespace Call

/-- The part of `path` between the question mark and the fragment. -/
def queryPart (path : List Char) : List Char :=
  ((path.takeWhile (· != '#')).dropWhile (· != '?')).drop 1

/-- The value of `param` if its name is that of the tenant; none if it cannot be decoded. -/
def paramTenant? (param : List Char) : Option (Option String) :=
  if Text.Percent.decode? (param.takeWhile (· != '=')) = some "tenant" then
    some (Text.Percent.decode? ((param.dropWhile (· != '=')).drop 1))
  else none

/-- The tenants in the parameters of `path`. -/
def pathTenants (path : String) : List (Option String) :=
  ((queryPart path.toList).splitOn '&').filterMap paramTenant?

/-- The values of a payload under `key`. -/
def payloadValues (key : String) : Value → List Value
  | .dict es => (es.filter fun e => e.1.text? = some key).map (·.2)
  | _ => []

/-- Under a key of `es ++ more` stand the values of `es`, then those of `more`. -/
theorem payloadValues_append (key : String) (es more : Entries) :
    payloadValues key (.dict (es ++ more)) =
      payloadValues key (.dict es) ++ payloadValues key (.dict more) := by
  simp [payloadValues]

/-- `payloadValues key`: an entry adds its value to those under its own key. -/
theorem payloadValues_cons_text (key k : String) (v : Value) (es : Entries) :
    payloadValues key (.dict ((.text k, v) :: es)) =
      if k = key then v :: payloadValues key (.dict es) else payloadValues key (.dict es) := by
  by_cases h : k = key <;> simp [payloadValues, Value.text?, h]

/-- The tenants that the query in `c` names. -/
def queryTenants (c : Call) : List (Option String) :=
  if c.path = Query.path then
    (payloadValues "query" c.payload).flatMap fun v =>
      Query.tenantArguments (v.text?.getD "").toList
  else []

/-- The tenants that `c` carries, none for each place where something else stands. -/
def tenants (c : Call) : List (Option String) :=
  pathTenants c.path ++ (payloadValues "tenant" c.payload).map Value.text? ++ c.queryTenants

/-- That `c` carries `tenant`, and no other one; or that it carries none. -/
def Carries (tenant : Option String) (c : Call) : Prop :=
  match tenant with
  | none => c.tenants = []
  | some t => c.tenants ≠ [] ∧ ∀ carried ∈ c.tenants, carried = some t

/-- `c.Carries tenant`: A call carries the tenant that stands at one of the places. -/
theorem carries_of_tenants_eq {tenant : Option String} {c : Call}
    (h : c.tenants = (tenant.map some).toList) : c.Carries tenant := by
  cases tenant with
  | none => exact h
  | some t => exact ⟨by simp [h], by simp [h]⟩

/-- A call carries the tenant that stands at two of the places. -/
theorem carries_of_tenants_eq_append {tenant : Option String} {c : Call}
    (h : c.tenants = (tenant.map some).toList ++ (tenant.map some).toList) :
    c.Carries tenant := by
  cases tenant with
  | none => exact h
  | some t => exact ⟨by simp [h], by simp [h]⟩

/-! ## Paths -/

/-- That the characters of `path` are within the segments of a path. -/
def IsPlain (path : List Char) : Prop := ∀ c ∈ path, c ≠ '?' ∧ c ≠ '#'

/-- `queryPart (path ++ '?' :: rest) = rest` for a plain path and a rest without a fragment. -/
theorem queryPart_append {path rest : List Char} (hpath : IsPlain path)
    (hrest : ∀ c ∈ rest, c ≠ '#') : queryPart (path ++ '?' :: rest) = rest := by
  have hfragment : (path ++ '?' :: rest).takeWhile (· != '#') = path ++ '?' :: rest := by
    refine List.takeWhile_eq_self_iff.mpr fun c hc => ?_
    rcases List.mem_append.mp hc with hc | hc
    · simpa using (hpath c hc).2
    · rcases List.mem_cons.mp hc with rfl | hc
      · decide
      · simpa using hrest c hc
  rw [queryPart, hfragment, List.dropWhile_append_of_pos fun c hc => by simpa using (hpath c hc).1]
  rfl

/-- `queryPart path = []`: a plain path has no query part. -/
theorem queryPart_of_isPlain {path : List Char} (hpath : IsPlain path) : queryPart path = [] := by
  have hdrop : ∀ c ∈ path.takeWhile (· != '#'), (c != '?') = true := fun c hc => by
    simpa using (hpath c (List.takeWhile_subset _ hc)).1
  rw [queryPart, List.dropWhile_eq_nil_iff.mpr hdrop, List.drop_nil]

/-- `pathTenants (String.ofList path) = []`: A plain path carries no tenant. -/
theorem pathTenants_of_isPlain {path : List Char} (hpath : IsPlain path) :
    pathTenants (String.ofList path) = [] := by
  rw [pathTenants, String.toList_ofList, queryPart_of_isPlain hpath]
  decide

/-- `c ∉ Text.Percent.encode cs` for a reserved character other than `%`. -/
theorem not_mem_encode {cs : List Char} {c : Char} (hc : Text.Percent.isUnreserved c = false)
    (hpercent : c ≠ '%') : c ∉ Text.Percent.encode cs := by
  intro hmem
  rcases Text.Percent.isUnreserved_or_eq_of_mem_encode hmem with h | h
  · rw [hc] at h
    cases h
  · exact hpercent h

/-- The parameter that carries a tenant `t` is read back as `t`. -/
theorem paramTenant?_tenant (t : String) :
    paramTenant? ("tenant".toList ++ '=' :: Text.Percent.encode t.toList) = some (some t) := by
  have hkey : ∀ c ∈ "tenant".toList, (c != '=') = true := by simp
  have hname : Text.Percent.decode? "tenant".toList = some "tenant" := by
    -- The name is its own encoded form, so it is decoded to itself.
    have hself : Text.Percent.encode "tenant".toList = "tenant".toList :=
      Text.Percent.encode_of_isUnreserved (by simp; decide)
    have hdecode := Text.Percent.decode?_encode "tenant".toList
    rwa [hself, String.ofList_toList] at hdecode
  have hvalue : Text.Percent.decode? (Text.Percent.encode t.toList) = some t := by
    rw [Text.Percent.decode?_encode, String.ofList_toList]
  rw [paramTenant?, List.takeWhile_append_of_pos hkey, List.dropWhile_append_of_pos hkey,
    List.takeWhile_cons_of_neg (by simp), List.dropWhile_cons_of_neg (by simp), List.append_nil,
    if_pos hname, List.drop_one, List.tail_cons, hvalue]

/-- A tenant `t` that was percent-encoded is read back from the only parameter of a path. -/
theorem pathTenants_tenant {path : List Char} (hpath : IsPlain path) (t : String) :
    pathTenants (String.ofList (path ++ "?tenant=".toList ++ Text.Percent.encode t.toList)) =
      [some t] := by
  have hparam : "?tenant=".toList ++ Text.Percent.encode t.toList =
      '?' :: ("tenant".toList ++ '=' :: Text.Percent.encode t.toList) := by simp
  -- No sign that divides an address is in a parameter that was encoded.
  have hmem : ∀ c, c ∉ "tenant".toList → c ≠ '=' → c ∉ Text.Percent.encode t.toList →
      c ∉ "tenant".toList ++ '=' :: Text.Percent.encode t.toList := by
    intro c hname heq hvalue hc
    rcases List.mem_append.mp hc with hc | hc
    · exact hname hc
    · exact (List.mem_cons.mp hc).elim heq hvalue
  have hfragment : '#' ∉ "tenant".toList ++ '=' :: Text.Percent.encode t.toList :=
    hmem '#' (by simp) (by decide) (not_mem_encode (by decide) (by decide))
  have hsplit : '&' ∉ "tenant".toList ++ '=' :: Text.Percent.encode t.toList :=
    hmem '&' (by simp) (by decide) (not_mem_encode (by decide) (by decide))
  rw [pathTenants, String.toList_ofList, List.append_assoc, hparam,
    queryPart_append hpath fun c hc => ne_of_mem_of_not_mem hc hfragment,
    List.splitOn_eq_singleton hsplit, List.filterMap_cons_some (paramTenant?_tenant t)]
  rfl

end Call

/-! ## Calls on objects -/

namespace Objects

open Call

variable {o : Objects}

/-- `IsPlain o.collection.toList`: a collection's name has no question mark and no number sign. -/
theorem isPlain_collection
    (hname : Validate.isName (Validate.dropFinalLineFeed o.collection.toList) = true) :
    IsPlain o.collection.toList := by
  have hword : IsPlain (Validate.dropFinalLineFeed o.collection.toList) := by
    intro c hc
    have hc := (isWordChar_of_isName hname).2 c hc
    constructor <;> rintro rfl <;> exact absurd hc (by decide)
  rcases eq_dropFinalLineFeed o.collection.toList with h | h
  · rw [h]
    exact hword
  · rw [h]
    exact List.forall_mem_append.mpr ⟨hword, by simp⟩

/-- `IsPlain (o.pathOf id)`, whatever the identifier. -/
theorem isPlain_pathOf
    (hname : Validate.isName (Validate.dropFinalLineFeed o.collection.toList) = true)
    (id : String) : IsPlain (o.pathOf id) := by
  have hslash : '/' ≠ '?' ∧ '/' ≠ '#' := by decide
  have hroot : IsPlain root.toList := by
    simp [IsPlain, root]
  have hid : IsPlain (Text.Percent.encode id.toList) := fun c hc =>
    ⟨ne_of_mem_of_not_mem hc (not_mem_encode (by decide) (by decide)),
      ne_of_mem_of_not_mem hc (not_mem_encode (by decide) (by decide))⟩
  exact List.forall_mem_append.mpr ⟨List.forall_mem_append.mpr
    ⟨hroot, List.forall_mem_cons.mpr ⟨hslash, isPlain_collection hname⟩⟩,
    List.forall_mem_cons.mpr ⟨hslash, hid⟩⟩

/-- `pathTenants (o.inTenant path) = [o.tenant]`: A path with the tenant in its query part carries
the tenant once. -/
theorem pathTenants_inTenant {path : List Char} (hpath : IsPlain path) :
    pathTenants (String.ofList (o.inTenant path)) = (o.tenant.map some).toList := by
  cases htenant : o.tenant with
  | none =>
    rw [inTenant, htenant]
    exact pathTenants_of_isPlain hpath
  | some t =>
    rw [inTenant, htenant]
    exact pathTenants_tenant hpath t

/-- That no key of `es` is that of the tenant. -/
def Untenanted (es : Entries) : Prop := ∀ e ∈ es, ∃ key, e.1 = .text key ∧ key ≠ "tenant"

/-- `Untenanted (es.putText key value)` for every key but the tenant's. -/
theorem Untenanted.putText {key : String} {es : Entries} (h : Untenanted es) (hkey : key ≠ "tenant")
    (value : Value) : Untenanted (es.putText key value) := by
  induction es with
  | nil =>
    intro e he
    rw [List.mem_singleton.mp he]
    exact ⟨key, rfl, hkey⟩
  | cons e es ih =>
    obtain ⟨k, v⟩ := e
    obtain ⟨hhead, htail⟩ := List.forall_mem_cons.mp h
    rw [Entries.putText, Entries.put]
    split
    · exact List.forall_mem_cons.mpr ⟨hhead, htail⟩
    · exact List.forall_mem_cons.mpr ⟨hhead, ih htail⟩

/-- `es.putText "tenant" value = es ++ [(.text "tenant", value)]` if the key is not there yet. -/
theorem Untenanted.putText_tenant {es : Entries} (h : Untenanted es) (value : Value) :
    es.putText "tenant" value = es ++ [(.text "tenant", value)] := by
  refine Entries.putText_of_forall_ne fun e he => ?_
  obtain ⟨key, hkey, hne⟩ := h e he
  rw [hkey]
  simpa using hne

/-- `o.withTenant body` carries the tenant once. -/
theorem payloadValues_withTenant {body : Entries} (h : Untenanted body) :
    payloadValues "tenant" (.dict (o.withTenant body)) = (o.tenant.map Value.text).toList := by
  -- So the value under the key can only be the one that was added.
  have hbody : payloadValues "tenant" (.dict body) = [] := by
    rw [payloadValues, List.map_eq_nil_iff, List.filter_eq_nil_iff]
    intro e he
    obtain ⟨key, hkey, hne⟩ := h e he
    rw [hkey]
    simpa [Value.text?] using hne
  cases htenant : o.tenant with
  | none =>
    have hnone : o.withTenant body = body := by rw [withTenant, htenant]
    rw [hnone, hbody]
    rfl
  | some t =>
    have hsome : o.withTenant body = body ++ [(.text "tenant", .text t)] := by
      rw [← h.putText_tenant, withTenant, htenant]
    rw [hsome, payloadValues_append, hbody, payloadValues_cons_text, if_pos rfl]
    rfl

/-- A body of a class and its properties is `Untenanted`. -/
theorem untenanted_own (properties : Entries) :
    Untenanted [(.text "class", .text o.collection), (.text "properties", .dict properties)] := by
  intro e he
  simp only [List.mem_cons, List.not_mem_nil, or_false] at he
  rcases he with rfl | rfl
  · exact ⟨"class", rfl, by decide⟩
  · exact ⟨"properties", rfl, by decide⟩

/-- A creation's body is `o.withTenant own` for an untenanted `own`. -/
theorem exists_of_creationBody {properties id vector : Value} {normalize : Bool} {body : Entries}
    (h : o.creationBody properties id vector normalize = .ok body) :
    ∃ own, Untenanted own ∧ body = o.withTenant own := by
  unfold creationBody at h
  split at h
  · dsimp only at h
    -- The identifier and the vector are further keys, each only if it is there.
    split at h
    · cases h
      refine ⟨_, ?_, rfl⟩
      split
      · exact untenanted_own _
      · exact (untenanted_own _).putText (by decide) _
    · obtain ⟨own, hown, h⟩ := bind_eq_ok h
      obtain ⟨xs, -, rfl⟩ := map_eq_ok hown
      cases h
      refine ⟨_, .putText ?_ (by decide) _, rfl⟩
      split
      · exact untenanted_own _
      · exact (untenanted_own _).putText (by decide) _
  · cases h

/-- An update's body is `o.withTenant own` for an untenanted `own`. -/
theorem exists_of_updateBody {properties : Value} {body : Entries}
    (h : o.updateBody properties = .ok body) :
    ∃ own, Untenanted own ∧ body = o.withTenant own := by
  obtain ⟨entries, -, h⟩ := bind_eq_ok h
  cases h
  exact ⟨_, untenanted_own entries, rfl⟩

/-- A path below `root` is not the one that queries are posted to. -/
theorem queryTenants_of_root_prefix {method : Method} {path : List Char} {payload : Value}
    (h : root.toList <+: path) :
    (Call.mk method (String.ofList path) payload).queryTenants = [] := by
  refine if_neg fun heq => ?_
  have hpath : path = Query.path.toList := by rw [← heq, String.toList_ofList]
  rw [hpath] at h
  simp [root, Query.path] at h

/-- Every object's path begins with `root`. -/
theorem root_prefix_pathOf (o : Objects) (id : String) : root.toList <+: o.pathOf id := by
  rw [pathOf, List.append_assoc]
  exact List.prefix_append _ _

/-- A path that begins with `root` does so with the tenant, too. -/
theorem root_prefix_inTenant {path : List Char} (h : root.toList <+: path) :
    root.toList <+: o.inTenant path := by
  rw [inTenant]
  split
  · exact h
  · exact (h.trans (List.prefix_append _ _)).trans (List.prefix_append _ _)

/-- As texts, the values of an optional `tenant` are that tenant, if there is one. -/
theorem map_text?_tenant (tenant : Option String) :
    (tenant.map Value.text).toList.map Value.text? = (tenant.map some).toList := by
  cases tenant <;> rfl

section

variable (hname : Validate.isName (Validate.dropFinalLineFeed o.collection.toList) = true)

include hname

/-- Reading an object names the tenant in `o.tenantParams`. -/
theorem carries_get (id : String) :
    (Call.mk .get (String.ofList (o.pathOf id)) o.tenantParams).Carries o.tenant := by
  have hparams : payloadValues "tenant" o.tenantParams = (o.tenant.map Value.text).toList := by
    rw [tenantParams]
    cases o.tenant <;> rfl
  refine carries_of_tenants_eq ?_
  rw [tenants, pathTenants_of_isPlain (isPlain_pathOf hname id), hparams, map_text?_tenant,
    queryTenants_of_root_prefix (root_prefix_pathOf o id), List.append_nil, List.nil_append]

/-- A call without a payload names the tenant in the path `o.inTenant (o.pathOf id)`. -/
theorem carries_inTenant (method : Method) (id : String) :
    (Call.mk method (String.ofList (o.inTenant (o.pathOf id))) .null).Carries o.tenant := by
  refine carries_of_tenants_eq ?_
  rw [tenants, pathTenants_inTenant (isPlain_pathOf hname id),
    queryTenants_of_root_prefix (root_prefix_inTenant (root_prefix_pathOf o id))]
  simp [payloadValues]

/-- An update names the tenant in its path and in the body `o.withTenant own`. -/
theorem carries_inTenant_withTenant (method : Method) (id : String) {own : Entries}
    (hown : Untenanted own) :
    (Call.mk method (String.ofList (o.inTenant (o.pathOf id))) (.dict (o.withTenant own))).Carries
      o.tenant := by
  refine carries_of_tenants_eq_append ?_
  rw [tenants, pathTenants_inTenant (isPlain_pathOf hname id), payloadValues_withTenant hown,
    map_text?_tenant, queryTenants_of_root_prefix (root_prefix_inTenant (root_prefix_pathOf o id)),
    List.append_nil]

end

/-- A creation names the tenant in the body `o.withTenant own`. -/
theorem carries_root_withTenant (method : Method) {own : Entries} (hown : Untenanted own) :
    (Call.mk method root (.dict (o.withTenant own))).Carries o.tenant := by
  have hroot : String.ofList root.toList = root := String.ofList_toList
  have hplain : IsPlain root.toList := by simp [IsPlain, root]
  refine carries_of_tenants_eq ?_
  rw [← hroot, tenants, pathTenants_of_isPlain hplain, payloadValues_withTenant hown,
    map_text?_tenant, queryTenants_of_root_prefix (List.prefix_refl _), List.append_nil,
    List.nil_append]

end Objects

/-! ## Calls by queries -/

namespace Query

/-- A call that posts what `q` compiles to carries `q.tenant`, which an argument names. -/
theorem carries_payload {q : Query} {c : CompiledQuery}
    (hname : Validate.isName (Validate.dropFinalLineFeed q.collection.toList) = true)
    (hfields : q.SelectsNames) (h : q.compile = .ok c) (method : Method) :
    (Call.mk method Query.path c.payload).Carries q.tenant := by
  have hpath : String.ofList Query.path.toList = Query.path := String.ofList_toList
  have hplain : Call.IsPlain Query.path.toList := by simp [Call.IsPlain, Query.path]
  have htenant : Call.payloadValues "tenant" c.payload = [] := rfl
  have htext : Call.payloadValues "query" c.payload = [.text c.text] := rfl
  have hquery : (Call.mk method Query.path c.payload).queryTenants =
      (q.tenant.map some).toList := by
    rw [Call.queryTenants, if_pos rfl, htext, List.flatMap_singleton]
    exact tenantArguments_compile hname hfields h
  refine Call.carries_of_tenants_eq ?_
  rw [Call.tenants, hquery, htenant, ← hpath, Call.pathTenants_of_isPlain hplain]
  rfl

end Query

end ObjectStore
