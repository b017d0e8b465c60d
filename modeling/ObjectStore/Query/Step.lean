import ObjectStore.Query.Fetch

/-! # Queries in use

A query is set and read step by step. Four of the steps set a register each; the others read the
query, and may send it. A step that fails is answered by its failure, and the steps after it are
made all the same.

* `Query.set`: the query with a register set.
* `Query.Step.run`: a step on a query in use, `Query.runSteps`: some steps in turn. -/

namespace ObjectStore

namespace Query

/-- What can be set of a query. -/
inductive Register
  | filter
  | limit
  | selection
  | defaults
deriving DecidableEq, Repr

/-- Every register. -/
def Register.all : List Register := [filter, limit, selection, defaults]

/-- A value for a register. -/
structure Setting where
  register : Register
  value : Value
deriving Repr

/-- The query with a register set. -/
def set (q : Query) (s : Setting) : Except Failure Query :=
  match s.register with
  | .filter => q.setFilter s.value
  | .limit => q.setLimit s.value
  | .selection => q.selectFields s.value
  | .defaults => q.setDefaults s.value

/-- What can be done with a query. -/
inductive Step
  | set (s : Setting)
  | resolveFields
  | compile
  | parseResponse (envelope : Value)
  | fetch
deriving Repr

/-- What a step answers. -/
inductive Answer
  /-- The query itself. -/
  | itself
  | fields (names : List String)
  | compiled (c : CompiledQuery)
  | records (found : List Entries)
deriving Repr

/-- A query in use, and the state that its requests change. -/
structure InUse (σ : Type) where
  query : Query
  state : σ

namespace InUse

variable {σ α : Type}

/-- The action that changes the query, unless the change is refused. -/
def change (f : Query → Except Failure Query) : Action (InUse σ) Unit := do
  let u ← get
  let q ← Action.done (f u.query)
  Action.change fun u => { u with query := q }

/-- The action that a query gives rise to. -/
def read (a : Query → Action σ α) : Action (InUse σ) α := fun u =>
  let (r, s) := a u.query u.state
  (r, { u with state := s })

end InUse

variable {σ : Type}

/-- A step on a query in use. -/
def Step.run (fx : Effects σ) (connection : Option (Connection σ)) : Step → Action (InUse σ) Answer
  | set s => do
    InUse.change (·.set s)
    return .itself
  | resolveFields => InUse.read fun q => return .fields (← Action.done q.resolveFields)
  | compile => InUse.read fun q => return .compiled (← q.compileLogged fx)
  | parseResponse envelope =>
    InUse.read fun q => return .records (← Action.done (Response.records q.collection envelope))
  | fetch => InUse.read fun q => return .records (← q.fetch fx connection)

/-- Some steps in turn: what each comes to, and what is in use after them. -/
def runSteps (fx : Effects σ) (connection : Option (Connection σ)) :
    List Step → InUse σ → List (Except Failure Answer) × InUse σ
  | [], u => ([], u)
  | step :: steps, u =>
    let (answer, u) := step.run fx connection u
    let (answers, u) := runSteps fx connection steps u
    (answer :: answers, u)

end Query

end ObjectStore
