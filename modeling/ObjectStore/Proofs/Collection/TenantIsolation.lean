import Mathlib
import ObjectStore.Client
import ObjectStore.Proofs.Collection.CallTenants
import ObjectStore.Proofs.Connection.Calls
import ObjectStore.Proofs.Query.Registers

/-! # Tenants are kept apart

Whatever is done with a handle on a collection, each call that is made carries the handle's tenant
and no other one, at whichever of the places a call has for it; and if the handle has no tenant, no
call carries one.

* `Collection.Reached`: the handles that a client gives out, and those made from them.
* `Collection.Operation`: what can be done with a handle.
* `Collection.run_carries_tenant`: the calls of every operation carry the handle's tenant. -/

namespace ObjectStore

namespace Collection

/-! ## Handles and operations -/

/-- The handles that some client gives out, and those made from them. -/
inductive Reached : Collection → Prop
  | given {κ : Type} (client : Client κ) {name tenant defaults : Value} {c : Collection}
    (h : client.collection name tenant defaults = .ok c) : Reached c
  | withTenant {c c' : Collection} {tenant : Value} (hc : Reached c)
    (h : c.withTenant tenant = .ok c') : Reached c'
  | withDefaultFields {c : Collection} (hc : Reached c) (fields : Value) :
    Reached (c.withDefaultFields fields)

/-- A new query on the collection with `settings` made in turn. -/
def queryWith (c : Collection) (settings : List Query.Setting) : Except Failure Query := do
  let q ← c.query
  settings.foldlM Query.set q

/-- What can be done with a handle. -/
inductive Operation
  /-- Sends a query with some settings. -/
  | fetch (settings : List Query.Setting)
  | findBy (criteria limit properties : Value)
  | findOneBy (criteria properties : Value)
  | create (properties id vector : Value) (normalize : Bool)
  | get (id : Value)
  | update (id properties : Value)
  | delete (id : Value)
  | exists? (id : Value)

namespace Operation

/-- The query that an operation on `c` makes, if it is one that makes queries. -/
def query? (c : Collection) : Operation → Option (Except Failure Query)
  | fetch settings => some (c.queryWith settings)
  | findBy criteria limit properties => some (c.queryBy criteria limit properties)
  | findOneBy criteria properties => some (c.queryBy criteria (.int 1) properties)
  | _ => none

variable {σ : Type}

/-- An operation on the handle `c`, what it returns aside. -/
def run (c : Collection) (fx : Effects σ) (connection : Connection σ) : Operation → Action σ Unit
  | fetch settings => do
    let q ← Action.done (c.queryWith settings)
    let _ ← q.fetch fx (some connection)
  | findBy criteria limit properties => do
    let _ ← c.findBy fx connection criteria limit properties
  | findOneBy criteria properties => do
    let _ ← c.findOneBy fx connection criteria properties
  | create properties id vector normalize => do
    let _ ← c.objects.create fx connection properties id vector normalize
  | get id => do
    let _ ← c.objects.get connection id
  | update id properties => do
    let _ ← c.objects.update connection id properties
  | delete id => do
    let _ ← c.objects.delete connection id
  | exists? id => do
    let _ ← c.objects.exists? connection id

end Operation

/-! ## Names and tenants of handles and queries -/

/-- `Validate.tenant (.ofText? t) = .ok t`: A tenant that has been accepted is accepted as it is. -/
theorem tenant_ofText?_eq_ok {t t' : Option String}
    (h : Validate.tenant (.ofText? t) = .ok t') : t' = t := by
  cases t with
  | none =>
    cases h
    rfl
  | some s =>
    change (if s.isEmpty then _ else _) = _ at h
    split_ifs at h with hempty
    cases h
    rfl

variable {c : Collection} {q : Query}

/-- The name of a handle that can be `Reached` is one of the query language. -/
theorem Reached.isName (hc : c.Reached) :
    Validate.isName (Validate.dropFinalLineFeed c.name.toList) = true := by
  induction hc with
  | given client h =>
    obtain ⟨name, hname, h⟩ := bind_eq_ok h
    obtain ⟨tenant, -, h⟩ := bind_eq_ok h
    cases h
    exact (collectionName_eq_ok (mapError_eq_ok hname)).2
  | withTenant hc h ih =>
    obtain ⟨t, -, rfl⟩ := map_eq_ok h
    exact ih
  | withDefaultFields hc fields ih => exact ih

/-- `c.query = .ok q`: A handle's query is on the handle's collection and for its tenant. -/
theorem construction_of_query (h : c.query = .ok q) :
    q.collection = c.name ∧ q.tenant = c.tenant := by
  obtain ⟨name, hname, h⟩ := bind_eq_ok h
  obtain ⟨tenant, htenant, h⟩ := bind_eq_ok h
  obtain ⟨defaults, -, h⟩ := bind_eq_ok h
  obtain ⟨policy, -, h⟩ := bind_eq_ok h
  cases h
  obtain ⟨hc, -⟩ := collectionName_eq_ok (mapError_eq_ok hname)
  exact ⟨(Value.text.inj hc).symm, tenant_ofText?_eq_ok (mapError_eq_ok htenant)⟩

/-- `c.queryWith settings = .ok q`: settings change neither the collection of a handle's query nor
its tenant. -/
theorem construction_of_queryWith {settings : List Query.Setting}
    (h : c.queryWith settings = .ok q) : q.collection = c.name ∧ q.tenant = c.tenant := by
  obtain ⟨p, hp, h⟩ := bind_eq_ok h
  have hsame := Query.construction_of_foldlM_set h
  simp only [Query.construction, Prod.mk.injEq] at hsame
  obtain ⟨hcollection, htenant⟩ := construction_of_query hp
  exact ⟨hsame.1.trans hcollection, hsame.2.1.trans htenant⟩

/-- `c.queryBy criteria limit properties = .ok q`: the query for some criteria is on the handle's
collection and for its tenant. -/
theorem construction_of_queryBy {criteria limit properties : Value}
    (h : c.queryBy criteria limit properties = .ok q) :
    q.collection = c.name ∧ q.tenant = c.tenant := by
  obtain ⟨p, hp, h⟩ := bind_eq_ok h
  obtain ⟨filter, -, h⟩ := bind_eq_ok h
  obtain ⟨p', hp', h⟩ := bind_eq_ok h
  -- The filter is put in place directly; the limit and the fields are set.
  have hlimit : Query.construction p' = p.construction :=
    Query.construction_of_set_eq_ok (q := { p with filter := filter }) (s := ⟨.limit, limit⟩) hp'
  have hsame : q.construction = p.construction := by
    split at h
    · cases h
      exact hlimit
    · exact (Query.construction_of_set_eq_ok (s := ⟨.selection, properties⟩) h).trans hlimit
  simp only [Query.construction, Prod.mk.injEq] at hsame
  obtain ⟨hcollection, htenant⟩ := construction_of_query hp
  exact ⟨hsame.1.trans hcollection, hsame.2.1.trans htenant⟩

/-- `op.query? c = some (.ok q)`: the query of an operation is on the handle's collection and for
its tenant. -/
theorem construction_of_query? {op : Operation} (h : op.query? c = some (.ok q)) :
    q.collection = c.name ∧ q.tenant = c.tenant := by
  cases op with
  | fetch settings => exact construction_of_queryWith (Option.some.inj h)
  | findBy criteria limit properties => exact construction_of_queryBy (Option.some.inj h)
  | findOneBy criteria properties => exact construction_of_queryBy (Option.some.inj h)
  | _ => cases h

end Collection

/-! ## Calls of single operations -/

section

variable {P : Call → Prop} (clock : Nat → Number) (answers : Nat → Except Failure Value)

/-- `q.fetch` makes no call but the one that posts what `q` compiles to. -/
theorem Query.callsOnly_fetch {q : Query}
    (h : ∀ compiled, q.compile = .ok compiled → P ⟨.post, path, compiled.payload⟩) :
    (q.fetch (Journal.effects clock) (some (Journal.connection answers))).CallsOnly P := by
  -- Whether anything is sent depends on the compilation alone.
  cases hcompile : q.compile with
  | error e =>
    refine .of_silent fun j => ?_
    rw [fetch, Action.bind_run_error (compileLogged_of_error hcompile _ j)]
  | ok compiled =>
    have hsent : ((Journal.connection answers).perform ⟨.post, path, compiled.payload⟩ >>=
        fun envelope => Action.done (Response.records q.collection envelope)).CallsOnly P :=
      .bind (.perform (h compiled hcompile) answers) fun _ => .of_silent fun _ => rfl
    intro j
    rw [fetch, Action.bind_run_ok (compileLogged_of_ok hcompile _ j)]
    exact hsent j

variable {o : Objects}
  (hname : Validate.isName (Validate.dropFinalLineFeed o.collection.toList) = true)

include hname

/-- Reading an object makes only calls that carry `o.tenant`. -/
theorem Objects.callsOnly_get (id : Value) :
    (o.get (Journal.connection answers) id).CallsOnly (·.Carries o.tenant) := by
  refine .done_bind fun path hpath => .perform ?_ answers
  obtain ⟨s, -, rfl⟩ := map_eq_ok hpath
  exact carries_get hname s

/-- Updating an object makes only calls that carry `o.tenant`. -/
theorem Objects.callsOnly_update (id properties : Value) :
    (o.update (Journal.connection answers) id properties).CallsOnly (·.Carries o.tenant) := by
  refine .done_bind fun body hbody => .done_bind fun path hpath =>
    .bind (.perform ?_ answers) fun _ => callsOnly_get answers hname id
  obtain ⟨own, hown, rfl⟩ := exists_of_updateBody hbody
  obtain ⟨path', hpath', rfl⟩ := map_eq_ok hpath
  obtain ⟨s, -, rfl⟩ := map_eq_ok hpath'
  exact carries_inTenant_withTenant hname .patch s hown

/-- Deleting an object makes only calls that carry `o.tenant`. -/
theorem Objects.callsOnly_delete (id : Value) :
    (o.delete (Journal.connection answers) id).CallsOnly (·.Carries o.tenant) := by
  refine .done_bind fun path hpath => .perform ?_ answers
  obtain ⟨path', hpath', rfl⟩ := map_eq_ok hpath
  obtain ⟨s, -, rfl⟩ := map_eq_ok hpath'
  exact carries_inTenant hname .delete s

/-- Asking for an object makes only calls that carry `o.tenant`. -/
theorem Objects.callsOnly_exists? (id : Value) :
    (o.exists? (Journal.connection answers) id).CallsOnly (·.Carries o.tenant) := by
  refine .done_bind fun path hpath => .perform ?_ answers
  obtain ⟨path', hpath', rfl⟩ := map_eq_ok hpath
  obtain ⟨s, -, rfl⟩ := map_eq_ok hpath'
  exact carries_inTenant hname .head s

omit hname in

/-- Creating an object makes only calls that carry `o.tenant`. -/
theorem Objects.callsOnly_create (properties id vector : Value) (normalize : Bool) :
    (o.create (Journal.effects clock) (Journal.connection answers) properties id vector
      normalize).CallsOnly (·.Carries o.tenant) := by
  refine .done_bind fun body hbody => .bind (.of_silent fun _ => rfl) fun _ =>
    .perform ?_ answers
  obtain ⟨own, hown, rfl⟩ := exists_of_creationBody hbody
  exact carries_root_withTenant .post hown

end

/-! ## Calls of handles -/

namespace Collection

variable {c : Collection} {q : Query}

/-- What `op.query? c` compiles to carries `c.tenant`. -/
theorem carries_of_compile (hc : c.Reached) {op : Operation} (h : op.query? c = some (.ok q))
    (hnames : q.SelectsNames) {compiled : CompiledQuery} (hcompile : q.compile = .ok compiled) :
    (Call.mk .post Query.path compiled.payload).Carries c.tenant := by
  obtain ⟨hcollection, htenant⟩ := construction_of_query? h
  have hname := hc.isName
  rw [← hcollection] at hname
  rw [← htenant]
  exact Query.carries_payload hname hnames hcompile .post

/-- The calls of `op.run c` carry `c.tenant`. -/
theorem callsOnly_run (hc : c.Reached) (op : Operation)
    (hnames : ∀ q, op.query? c = some (.ok q) → q.SelectsNames) (clock : Nat → Number)
    (answers : Nat → Except Failure Value) :
    (op.run c (Journal.effects clock) (Journal.connection answers)).CallsOnly
      (·.Carries c.tenant) := by
  have hname : Validate.isName (Validate.dropFinalLineFeed c.objects.collection.toList) = true :=
    hc.isName
  -- The three operations that send a query do it by `fetch`; the others make their own calls.
  have hfetch : ∀ q, op.query? c = some (.ok q) →
      (q.fetch (Journal.effects clock) (some (Journal.connection answers))).CallsOnly
        (·.Carries c.tenant) := fun q hq =>
    Query.callsOnly_fetch clock answers fun compiled => carries_of_compile hc hq (hnames q hq)
  cases op with
  | fetch settings =>
    exact .done_bind fun q hq => .ignoring (hfetch q (congrArg some hq))
  | findBy criteria limit properties =>
    exact .ignoring (.done_bind fun q hq => hfetch q (congrArg some hq))
  | findOneBy criteria properties =>
    refine .ignoring (.bind (.done_bind fun q hq => hfetch q (congrArg some hq)) fun found => ?_)
    exact .of_silent fun j => by cases found <;> rfl
  | create properties id vector normalize =>
    exact .ignoring (Objects.callsOnly_create clock answers properties id vector normalize)
  | get id => exact .ignoring (Objects.callsOnly_get answers hname id)
  | update id properties => exact .ignoring (Objects.callsOnly_update answers hname id properties)
  | delete id => exact .ignoring (Objects.callsOnly_delete answers hname id)
  | exists? id => exact .ignoring (Objects.callsOnly_exists? answers hname id)

/-- Whatever is done with a handle `c` that a client gave out or that was made from such a one, each
call carries `c.tenant` and no other, or none if the handle has no tenant. So do the calls that post
what a query of the handle compiles to. The fields that a query selects are names, since other
fields could hold anything, arguments among it. -/
theorem run_carries_tenant (hc : c.Reached) (op : Operation)
    (hnames : ∀ q, op.query? c = some (.ok q) → q.SelectsNames) (clock : Nat → Number)
    (answers : Nat → Except Failure Value) :
    (∀ call ∈ (op.run c (Journal.effects clock) (Journal.connection answers)
        Journal.start).2.calls, call.Carries c.tenant) ∧
      ∀ q compiled, op.query? c = some (.ok q) → q.compile = .ok compiled →
        (Call.mk .post Query.path compiled.payload).Carries c.tenant := by
  refine ⟨fun call hcall => ?_, fun q compiled hq => carries_of_compile hc hq (hnames q hq)⟩
  obtain ⟨made, hmade, hcarries⟩ := callsOnly_run hc op hnames clock answers Journal.start
  rw [hmade, show (Journal.start : Journal Call).calls = [] from rfl, List.nil_append] at hcall
  exact hcarries call hcall

/-- A handle for a tenant whose name reads like a parameter and like an argument. -/
def misleadingHandle : Collection :=
  ⟨"Article", some "a&tenant=b\", tenant: \"c", .null, .idOnly⟩

/-- A query for objects whose title reads like an argument. -/
def misleadingSearch : Operation :=
  .fetch [⟨.selection, .list [.text "title"]⟩,
    ⟨.filter, .filter (.comparison "title" .equal (.single (.text "\", tenant: \"c")))⟩]

/-- What reads like another tenant in `misleadingSearch` is none. -/
theorem run_carries_tenant_misleading :
    misleadingHandle.Reached ∧
      (∀ q, misleadingSearch.query? misleadingHandle = some (.ok q) → q.SelectsNames) ∧
      let calls := (misleadingSearch.run misleadingHandle (Journal.effects fun _ => .int 0)
        (Journal.connection fun _ => .ok .null) Journal.start).2.calls
      calls.length = 1 ∧ ∀ call ∈ calls, call.Carries misleadingHandle.tenant := by
  have hgiven : (⟨(), .idOnly⟩ : Client Unit).collection (.text "Article") .null .null =
      .ok ⟨"Article", none, .null, .idOnly⟩ := rfl
  have htenant : (⟨"Article", none, .null, .idOnly⟩ : Collection).withTenant
      (.text "a&tenant=b\", tenant: \"c") = .ok misleadingHandle := rfl
  have hreached : misleadingHandle.Reached := .withTenant (.given _ hgiven) htenant
  have hnames : ∀ q, misleadingSearch.query? misleadingHandle = some (.ok q) → q.SelectsNames := by
    intro q hq
    have hfields : q.fields = [.text "title"] := by
      cases Except.ok.inj (Option.some.inj hq)
      rfl
    intro v hv
    rw [hfields, List.mem_singleton] at hv
    exact ⟨"title", hv, .inl rfl⟩
  refine ⟨hreached, hnames, rfl, ?_⟩
  exact (run_carries_tenant hreached misleadingSearch hnames _ _).1

end Collection

end ObjectStore
