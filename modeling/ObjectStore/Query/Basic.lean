import ObjectStore.Filter.Wire
import ObjectStore.GraphQL.Literal
import ObjectStore.Query.EmptySelection
import ObjectStore.Query.Fields
import ObjectStore.Validate

/-! # Queries

A query on a collection: its tenant, the fields it selects, its filter and its limit. Four of these
are set one at a time; a setting that is refused leaves the query as it was.

* `Query.make`: a query from values; `setFilter`, `setLimit`, `selectFields`, `setDefaults`: the
  settings.
* `Query.compile`: the text that is sent, with what it was made from. -/

namespace ObjectStore

/-- A query on a collection. -/
structure Query where
  collection : String
  tenant : Option String
  /-- The fields in use when none are asked for. -/
  defaults : List Value
  /-- What to do when there are no fields at all. -/
  emptySelection : EmptySelection
  /-- The fields asked for. -/
  selected : List String
  filter : Option Filter
  limit : Option Int
deriving Repr

/-- A query in the form in which it is sent. -/
structure CompiledQuery where
  collection : String
  text : String
  fields : List String
  /-- The form of the filter. -/
  condition : Option Value
deriving Repr

/-- The body of the request that `c` is sent by. -/
def CompiledQuery.payload (c : CompiledQuery) : Value := .dict [(.text "query", .text c.text)]

namespace Query

/-- A query from values. -/
def make (collection tenant defaults emptySelection : Value) : Except Failure Query := do
  let collection ← (Validate.collectionName collection).mapError Failure.invalid
  let tenant ← (Validate.tenant tenant).mapError Failure.invalid
  let defaults ← Fields.fieldsOf defaults
  let policy ← EmptySelection.ofValue emptySelection
  .ok ⟨collection, tenant, defaults, policy, [], none, none⟩

/-- The query `q` with a filter, or with none. -/
def setFilter (q : Query) : Value → Except Failure Query
  | .null => .ok { q with filter := none }
  | .filter f => .ok { q with filter := some f }
  | v => .error (.invalid (.notFilter v.typeName))

/-- The query `q` with a limit, or with none. -/
def setLimit (q : Query) : Value → Except Failure Query
  | .null => .ok { q with limit := none }
  | v => (Validate.limit v).map fun n => { q with limit := some n }

/-- The query `q` with the fields asked for by `v`. -/
def selectFields (q : Query) (v : Value) : Except Failure Query :=
  (Fields.selectionOf v).map fun names => { q with selected := names }

/-- The query `q` with the fields in use when none are asked for. -/
def setDefaults (q : Query) (v : Value) : Except Failure Query :=
  (Fields.fieldsOf v).map fun fields => { q with defaults := fields }

/-- The fields of `q` that are asked for, or else the default ones. -/
def fields (q : Query) : List Value :=
  if q.selected.isEmpty then q.defaults else q.selected.map .text

/-- The fields of `q` as they are sent. -/
def resolveFields (q : Query) : Except Failure (List String) :=
  if q.fields.isEmpty && q.emptySelection = .raise then
    .error (.invalid (.nothingSelected q.collection))
  else Fields.resolve q.fields

/-- The arguments of `q`: its `condition`, its limit and its tenant, as far as they are there. -/
def arguments (q : Query) (condition : Option (List Char)) : List (List Char) :=
  (condition.map fun c => "where: ".toList ++ c).toList ++
    (q.limit.map fun n => "limit: ".toList ++ (toString n).toList).toList ++
    (q.tenant.map fun t => "tenant: ".toList ++ Text.literal t.toList).toList

/-- Arguments between round brackets; no arguments have no brackets either. -/
def bracketed : List (List Char) → List Char
  | [] => []
  | arguments => '(' :: (GraphQL.commaJoin arguments ++ [')'])

/-- The `fields` joined by blanks. -/
def fieldText (fields : List String) : List Char := (" ".intercalate fields).toList

/-- The text of `q` with a written `condition` and the `fields` to be sent. -/
def textOf (q : Query) (condition : Option (List Char)) (fields : List String) : List Char :=
  "\x7b Get \x7b ".toList ++ q.collection.toList ++ bracketed (q.arguments condition) ++
    " \x7b ".toList ++ fieldText fields ++ " \x7d \x7d \x7d".toList

/-- The form of the optional filter `f`. -/
def conditionOf (f : Option Filter) : Except Failure (Option Value) :=
  match f with
  | none => .ok none
  | some f => f.wire.map some

/-- The text of an optional `condition`. -/
def conditionText (condition : Option Value) : Except Failure (Option (List Char)) :=
  match condition with
  | none => .ok none
  | some v => (GraphQL.literal false v).map some

/-- The query `q` in the form in which it is sent. -/
def compile (q : Query) : Except Failure CompiledQuery := do
  let fields ← q.resolveFields
  let condition ← conditionOf q.filter
  let written ← conditionText condition
  .ok ⟨q.collection, String.ofList (q.textOf written fields), fields, condition⟩

/-- How a message shows the query `q`. -/
def shown (q : Query) : String :=
  let tenant := (q.tenant.map Text.quoted).getD "None"
  let filter := (q.filter.map Filter.shown).getD "None"
  let limit := (q.limit.map fun n => toString n).getD "None"
  "QueryCompiler(collection=" ++ Text.quoted q.collection ++ ", tenant=" ++ tenant ++
    ", filter=" ++ filter ++ ", limit=" ++ limit ++ ")"

end Query

end ObjectStore
