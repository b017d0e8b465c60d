import ObjectStore.Filter.Build
import ObjectStore.Objects
import ObjectStore.Query.Fetch

/-! # Collections

A handle on a collection names it, a tenant and the default fields of its queries. Handles are
values: changing one makes another. -/

namespace ObjectStore

/-- A handle on a collection. -/
structure Collection where
  name : String
  tenant : Option String
  /-- The default fields as they were given. -/
  defaults : Value
  emptySelection : EmptySelection
deriving Repr

namespace Collection

/-- A handle from values: `name` and `tenant` are checked, and `defaults` are kept as they are. -/
def make (name tenant defaults : Value) (emptySelection : EmptySelection) :
    Except Failure Collection := do
  let name ← (Validate.collectionName name).mapError Failure.invalid
  let tenant ← (Validate.tenant tenant).mapError Failure.invalid
  .ok ⟨name, tenant, defaults, emptySelection⟩

/-- The handle `c` for another `tenant`, or for none. -/
def withTenant (c : Collection) (tenant : Value) : Except Failure Collection :=
  (Validate.tenant tenant).mapError Failure.invalid |>.map fun t => { c with tenant := t }

/-- The handle `c` whose queries select `fields` by default. -/
def withDefaultFields (c : Collection) (fields : Value) : Collection :=
  { c with defaults := fields }

/-- A new query on the collection of `c`. -/
def query (c : Collection) : Except Failure Query :=
  Query.make (.text c.name) (.ofText? c.tenant) c.defaults (.text c.emptySelection.name)

/-- The objects of the collection of `c`. -/
def objects (c : Collection) : Objects := ⟨c.name, c.tenant⟩

/-- The query for the objects that match `criteria`. Null for `properties` selects the default
fields. -/
def queryBy (c : Collection) (criteria limit properties : Value) : Except Failure Query := do
  let q ← c.query
  let filter ← Filter.ofCriteria criteria
  let q := { q with filter := filter }
  let q ← q.setLimit limit
  match properties with
  | .null => .ok q
  | fields => q.selectFields fields

variable {σ : Type}

/-- The objects that match `criteria`. -/
def findBy (c : Collection) (fx : Effects σ) (connection : Connection σ)
    (criteria limit properties : Value) : Action σ (List Entries) := do
  let q ← Action.done (c.queryBy criteria limit properties)
  q.fetch fx (some connection)

/-- The first object that matches `criteria`, or null. -/
def findOneBy (c : Collection) (fx : Effects σ) (connection : Connection σ)
    (criteria properties : Value) : Action σ Value := do
  let found ← c.findBy fx connection criteria (.int 1) properties
  match found with
  | [] => return .null
  | es :: _ => return .dict es

/-- How a message shows the handle `c`. -/
def shown (c : Collection) : String :=
  "Collection(name=" ++ Text.quoted c.name ++ ", tenant=" ++
    (c.tenant.map Text.quoted).getD "None" ++ ")"

end Collection

end ObjectStore
