import ObjectStore.Connection.Basic
import ObjectStore.Query.Basic
import ObjectStore.Query.Response

/-! # Running queries

A query is compiled and logged, posted as one request, and its envelope unwrapped. Nothing is sent
unless the query compiles. -/

namespace ObjectStore

namespace Query

/-- The path that queries are posted to. -/
def path : String := "/v1/graphql"

/-- The name under which compiled queries are logged. -/
def logger : String := "vectorclient.query.compiler"

variable {σ : Type}

/-- The query `q` in the form in which it is sent, which is logged. -/
def compileLogged (q : Query) (fx : Effects σ) : Action σ CompiledQuery := do
  let c ← Action.done q.compile
  fx.note .debug logger ("Compiled query: " ++ c.text)
  return c

/-- `q.compileLogged fx s`: A query that is compiled is logged, by its text. -/
theorem compileLogged_of_ok {q : Query} {c : CompiledQuery} (h : q.compile = .ok c)
    (fx : Effects σ) (s : σ) : q.compileLogged fx s =
      (.ok c, fx.log ⟨.debug, logger, "Compiled query: " ++ c.text⟩ s) := by
  rw [compileLogged, h]
  rfl

/-- `q.compileLogged fx s = (.error e, s)`: A query that is not compiled is not logged, and its
failure is passed on. -/
theorem compileLogged_of_error {q : Query} {e : Failure} (h : q.compile = .error e)
    (fx : Effects σ) (s : σ) : q.compileLogged fx s = (.error e, s) := by
  rw [compileLogged, h]
  rfl

/-- The objects that match the query. -/
def fetch (q : Query) (fx : Effects σ) (connection : Option (Connection σ)) :
    Action σ (List Entries) := do
  match connection with
  | none => throw (.invalid .noConnection)
  | some connection =>
    let c ← q.compileLogged fx
    let envelope ← connection.perform ⟨.post, path, c.payload⟩
    Action.done (Response.records q.collection envelope)

end Query

end ObjectStore
