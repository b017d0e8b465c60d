import Mathlib
import ObjectStore.Proofs.Collection.TenantIsolation
import ObjectStore.Proofs.Connection.Exchange

/-! # Operations check before they send

Every operation on a store looks at all it was given before it makes its first call. What it is
given makes a plan, in which no connection and no answer has a part: an objection to an argument, or
the calls that the operation is there for. If something is objected to, nothing is sent; otherwise
the operation makes the planned calls, up to the first one that fails, and passes that failure on as
it is.

* `StoreOperation`: the operations that use a connection.
* `StoreOperation.plan`: what the arguments of an operation come to.
* `StoreOperation.Expects`: the calls that an operation is there for, which are the ones planned.
* `StoreOperation.run_checks_first`: that an operation makes these calls if there is a plan for
  them, and none otherwise. -/

namespace ObjectStore

/-- An operation that uses a connection, with all that it is given. -/
inductive StoreOperation
  /-- Sends a query, if there is a connection. -/
  | fetch (q : Query) (connected : Bool)
  | findBy (c : Collection) (criteria limit properties : Value)
  | findOneBy (c : Collection) (criteria properties : Value)
  | create (o : Objects) (properties id vector : Value) (normalize : Bool)
  | get (o : Objects) (id : Value)
  | update (o : Objects) (id properties : Value)
  | delete (o : Objects) (id : Value)
  | exists? (o : Objects) (id : Value)

namespace StoreOperation

/-- The objects `found` as a list. -/
def listed (found : List Entries) : Value := .list (found.map .dict)

/-- The first of some objects, or null. -/
def firstOf : List Entries → Value
  | [] => .null
  | es :: _ => .dict es

variable {σ : Type}

/-- What an operation does, and what it returns as a value. -/
def run (fx : Effects σ) (connection : Connection σ) : StoreOperation → Action σ Value
  | fetch q connected => do
    let found ← q.fetch fx (if connected then some connection else none)
    return listed found
  | findBy c criteria limit properties => do
    let found ← c.findBy fx connection criteria limit properties
    return listed found
  | findOneBy c criteria properties => c.findOneBy fx connection criteria properties
  | create o properties id vector normalize =>
    o.create fx connection properties id vector normalize
  | get o id => o.get connection id
  | update o id properties => o.update connection id properties
  | delete o id => o.delete connection id
  | exists? o id => o.exists? connection id

/-- The method of an operation's first call. -/
def method : StoreOperation → Method
  | get .. => .get
  | update .. => .patch
  | delete .. => .delete
  | exists? .. => .head
  | _ => .post

/-- The calls that an operation is there for: one by its method, and for an update a second one that
reads the object that the first one changes. -/
def Expects : StoreOperation → List Call → Prop
  | update o id _, sent => ∃ s body params, id = .text s ∧
      sent = [⟨.patch, String.ofList (o.inTenant (o.pathOf s)), body⟩,
        ⟨.get, String.ofList (o.pathOf s), params⟩]
  | op, sent => ∃ path payload, sent = [⟨op.method, path, payload⟩]

/-- The plan of `q`: the post of what it is compiled to. -/
def planQuery (q : Query) : Except Failure (List Call) := do
  let compiled ← q.compile
  .ok [⟨.post, Query.path, compiled.payload⟩]

/-- What the arguments of an operation come to: the calls that it is to make, or an objection. -/
def plan : StoreOperation → Except Failure (List Call)
  | fetch q connected => if connected then planQuery q else .error (.invalid .noConnection)
  | findBy c criteria limit properties => c.queryBy criteria limit properties >>= planQuery
  | findOneBy c criteria properties => c.queryBy criteria (.int 1) properties >>= planQuery
  | create o properties id vector normalize => do
    let body ← o.creationBody properties id vector normalize
    .ok [⟨.post, Objects.root, .dict body⟩]
  | get o id => do
    let path ← o.objectPath id
    .ok [⟨.get, String.ofList path, o.tenantParams⟩]
  | update o id properties => do
    let body ← o.updateBody properties
    let path ← o.objectPath id
    .ok [⟨.patch, String.ofList (o.inTenant path), .dict body⟩,
      ⟨.get, String.ofList path, o.tenantParams⟩]
  | delete o id => do
    let path ← o.scopedPath id
    .ok [⟨.delete, path, .null⟩]
  | exists? o id => do
    let path ← o.scopedPath id
    .ok [⟨.head, path, .null⟩]

/-- What an operation makes of the last answer. -/
def read : StoreOperation → Value → Except Failure Value
  | fetch q _, v => (Response.records q.collection v).map listed
  | findBy c _ _ _, v => (Response.records c.name v).map listed
  | findOneBy c _ _, v => (Response.records c.name v).map firstOf
  | _, v => .ok v

end StoreOperation

/-! ## Plans -/

/-- `idOf id = .ok s`: A value that is an identifier is a text. -/
theorem Objects.idOf_eq_ok {id : Value} {s : String} (h : idOf id = .ok s) : id = .text s := by
  cases id with
  | text t =>
    rw [idOf] at h
    split at h
    · cases h
    · cases h
      rfl
  | _ => cases h

namespace StoreOperation

/-- `planQuery q = .ok sent`: the plan of a query is one post. -/
theorem exists_of_planQuery {q : Query} {sent : List Call} (h : planQuery q = .ok sent) :
    ∃ payload, sent = [⟨.post, Query.path, payload⟩] := by
  obtain ⟨compiled, -, h⟩ := bind_eq_ok h
  cases h
  exact ⟨compiled.payload, rfl⟩

/-- `op.plan = .ok sent` only if `op.Expects sent`: what is planned are the calls that the operation
is there for. -/
theorem expects_of_plan {op : StoreOperation} {sent : List Call} (h : op.plan = .ok sent) :
    op.Expects sent := by
  cases op with
  | fetch q connected =>
    cases connected with
    | false => cases h
    | true => exact ⟨_, exists_of_planQuery h⟩
  | findBy c criteria limit properties =>
    obtain ⟨q, -, h⟩ := bind_eq_ok h
    exact ⟨_, exists_of_planQuery h⟩
  | findOneBy c criteria properties =>
    obtain ⟨q, -, h⟩ := bind_eq_ok h
    exact ⟨_, exists_of_planQuery h⟩
  | update o id properties =>
    obtain ⟨body, -, h⟩ := bind_eq_ok h
    obtain ⟨path, hpath, h⟩ := bind_eq_ok h
    -- There is a path only if the identifier is a text, and both calls are on it.
    obtain ⟨s, hs, rfl⟩ := map_eq_ok hpath
    cases h
    exact ⟨s, _, _, Objects.idOf_eq_ok hs, rfl⟩
  | _ =>
    obtain ⟨part, -, h⟩ := bind_eq_ok h
    cases h
    exact ⟨_, _, rfl⟩

/-- `op.plan = .ok sent` only if `sent ≠ []`. -/
theorem ne_nil_of_plan {op : StoreOperation} {sent : List Call} (h : op.plan = .ok sent) :
    sent ≠ [] := by
  have hexpects := expects_of_plan h
  rintro rfl
  cases op <;> simp [Expects] at hexpects

end StoreOperation

/-! ## Operations and their plans -/

section

variable (clock : Nat → Number)

/-- `q.fetch` follows the plan of the query: it is compiled before it is sent. -/
theorem Query.follows_fetch (q : Query) :
    Action.Follows (StoreOperation.planQuery q) (Response.records q.collection) fun answers =>
      q.fetch (Journal.effects clock) (some (Journal.connection answers)) := by
  intro answers
  funext j
  rw [StoreOperation.planQuery]
  cases hcompile : q.compile with
  | error e => exact Action.bind_run_error (compileLogged_of_error hcompile _ j)
  | ok compiled =>
    refine (Action.bind_run_ok (compileLogged_of_ok hcompile _ j)).trans ?_
    show _ = ((Journal.connection answers).sendAll [⟨.post, path, compiled.payload⟩] .null >>= _) j
    rw [Connection.sendAll_singleton]
    rfl

/-- `c.findBy` follows the plan of `c.queryBy`: the query is made before it is sent. -/
theorem Collection.follows_findBy (c : Collection) (criteria limit properties : Value) :
    Action.Follows (c.queryBy criteria limit properties >>= StoreOperation.planQuery)
      (Response.records c.name) fun answers => c.findBy (Journal.effects clock)
        (Journal.connection answers) criteria limit properties := by
  refine .done_bind fun q hq => ?_
  rw [← (construction_of_queryBy hq).1]
  exact q.follows_fetch clock

end

namespace StoreOperation

/-- `op.run` follows `op.plan`, whichever operation it is. -/
theorem follows_run (op : StoreOperation) (clock : Nat → Number) :
    Action.Follows op.plan op.read fun answers =>
      op.run (Journal.effects clock) (Journal.connection answers) := by
  cases op with
  | fetch q connected =>
    cases connected with
    | false => exact fun _ => rfl
    | true => exact (q.follows_fetch clock).bind_pure listed
  | findBy c criteria limit properties =>
    exact (c.follows_findBy clock criteria limit properties).bind_pure listed
  | findOneBy c criteria properties =>
    have hfirst : ∀ answers, c.findOneBy (Journal.effects clock) (Journal.connection answers)
        criteria properties = (c.findBy (Journal.effects clock) (Journal.connection answers)
          criteria (.int 1) properties >>= fun found => pure (firstOf found)) := by
      intro answers
      rw [Collection.findOneBy]
      congr 1
      funext found
      cases found <;> rfl
    simp only [run, hfirst]
    exact (c.follows_findBy clock criteria (.int 1) properties).bind_pure firstOf
  | create o properties id vector normalize =>
    refine .done_bind fun body _ => ?_
    -- Nothing that is logged is seen in a journal.
    exact .perform ⟨.post, Objects.root, .dict body⟩
  | get o id => exact .done_bind fun path _ => .perform _
  | update o id properties =>
    refine .done_bind fun body _ answers => ?_
    beta_reduce
    cases hpath : o.objectPath id with
    | error e =>
      rw [Objects.scopedPath, hpath]
      rfl
    | ok path =>
      -- The second call checks the same identifier again, which has passed by then.
      have hget : o.get (Journal.connection answers) id =
          (Journal.connection answers).perform ⟨.get, String.ofList path, o.tenantParams⟩ := by
        rw [Objects.get, hpath]
        rfl
      have hsend := Action.Follows.sendAll [⟨.patch, String.ofList (o.inTenant path), .dict body⟩,
        ⟨.get, String.ofList path, o.tenantParams⟩] answers
      simp only [Connection.sendAll, bind_pure] at hsend
      rw [Objects.scopedPath, hpath, hget]
      exact hsend
  | delete o id => exact .done_bind fun path _ => .perform _
  | exists? o id => exact .done_bind fun path _ => .perform _

/-- What an operation is given decides whether it is refused, and which calls it makes. If
`op.plan = .error e`, it fails with `e` whatever the answers would be, and no call is made. If
`op.plan = .ok sent`, its calls are those of `sent`, which are the ones that it is there for. They
end right after the first that fails, and its failure is passed on as it is; if all are answered,
`op.read` takes the result from the last answer. -/
theorem run_checks_first (op : StoreOperation) (clock : Nat → Number) :
    (∀ e, op.plan = .error e → ∀ answers,
      op.run (Journal.effects clock) (Journal.connection answers) Journal.start =
        (.error e, Journal.start)) ∧
      ∀ sent, op.plan = .ok sent → op.Expects sent ∧ ∀ answers,
        (∀ k < sent.length, ∀ e, (∀ i < k, ∃ v, answers i = .ok v) → answers k = .error e →
          op.run (Journal.effects clock) (Journal.connection answers) Journal.start =
            (.error e, Journal.start.addCalls (sent.take (k + 1)))) ∧
        ∀ given : Nat → Value, (∀ i < sent.length, answers i = .ok (given i)) →
          op.run (Journal.effects clock) (Journal.connection answers) Journal.start =
            (op.read (given (sent.length - 1)), Journal.start.addCalls sent) := by
  -- No call was made before, so the answers are counted from the operation's own first call.
  have hstart : ∀ i, (Journal.start : Journal Call).calls.length + i = i := fun i => Nat.zero_add i
  refine ⟨fun e hplan answers => ?_, fun sent hplan => ⟨expects_of_plan hplan, fun answers => ?_⟩⟩
  · exact congrFun ((op.follows_run clock).eq_of_error hplan answers) Journal.start
  · have hrun := (op.follows_run clock).eq_of_ok hplan answers
    constructor
    · intro k hk e hbefore hfail
      have hcut := Journal.sendAll_of_error (j := Journal.start) hk
        (fun i hi => (hstart i).symm ▸ hbefore i hi) ((hstart k).symm ▸ hfail) .null
      exact (congrFun hrun _).trans (Action.bind_run_error hcut)
    · intro given hall
      have hanswers : ∀ i < sent.length,
          answers ((Journal.start : Journal Call).calls.length + i) = .ok (given i) := by
        intro i hi
        rw [hstart]
        exact hall i hi
      have hdone := Journal.sendAll_of_ok hanswers .null
      rw [if_neg (ne_nil_of_plan hplan)] at hdone
      exact (congrFun hrun _).trans (Action.bind_run_ok hdone)

/-- A book of a tenant, by `id`, is given another title. -/
def retitle (id : String) : StoreOperation :=
  update ⟨"Book", some "acme"⟩ (.text id) (.dict [(.text "title", .text "Emma")])

/-- A clock that stands still. -/
def stopped : Nat → Number := fun _ => .int 0

/-- The update `retitle ""`, without an identifier, makes no call. The update `retitle "7"` makes
two if the first is answered, and returns what the second is answered by; otherwise it makes only
the first. -/
theorem run_checks_first_retitle :
    (∀ answers, (retitle "").run (Journal.effects stopped) (Journal.connection answers)
        Journal.start = (.error (.invalid .badObjectId), Journal.start)) ∧
      ∃ patch get, (retitle "7").Expects [patch, get] ∧
        (∀ answers e, answers 0 = .error e →
          (retitle "7").run (Journal.effects stopped) (Journal.connection answers) Journal.start =
            (.error e, Journal.start.addCalls [patch])) ∧
        ∀ answers v w, answers 0 = .ok v → answers 1 = .ok w →
          (retitle "7").run (Journal.effects stopped) (Journal.connection answers) Journal.start =
            (.ok w, Journal.start.addCalls [patch, get]) := by
  have hrefused := (run_checks_first (retitle "") stopped).1 _ rfl
  have hplanned := (run_checks_first (retitle "7") stopped).2 _ rfl
  refine ⟨hrefused, _, _, hplanned.1, fun answers e hfail => ?_, fun answers v w hv hw => ?_⟩
  · exact (hplanned.2 answers).1 0 (by decide) e nofun hfail
  · refine (hplanned.2 answers).2 (fun i => if i = 0 then v else w) fun i hi => ?_
    match i, hi with
    | 0, _ => exact hv
    | 1, _ => exact hw

end StoreOperation

end ObjectStore
