import ObjectStore.Connection.Basic
import ObjectStore.Text.Percent
import ObjectStore.Validate
import ObjectStore.Value.Mapping
import ObjectStore.Vector

/-! # Objects of a collection

Creating, reading, updating and deleting single objects. An object is addressed by a path whose last
segment is its identifier, percent-encoded; the tenant travels in the parameters of a `get`, in the
query part of the path of the other calls, and in the bodies. Nothing is sent unless all arguments
are accepted. -/

namespace ObjectStore

/-- The objects of a collection, or those of one tenant in it. -/
structure Objects where
  collection : String
  tenant : Option String
deriving DecidableEq, Repr

namespace Objects

/-- The name under which operations on objects are logged. -/
def logger : String := "vectorclient.core.data"

/-- The path that new objects are posted to. -/
def root : String := "/v1/objects"

/-- The objects of `collection`, or those of one `tenant` in it, from values. -/
def make (collection tenant : Value) : Except Failure Objects := do
  let collection ← (Validate.collectionName collection).mapError Failure.invalid
  let tenant ← (Validate.tenant tenant).mapError Failure.invalid
  .ok ⟨collection, tenant⟩

/-- The identifier that a value is: a text that is not empty. -/
def idOf : Value → Except Failure String
  | .text s => if s.isEmpty then .error (.invalid .badObjectId) else .ok s
  | _ => .error (.invalid .badObjectId)

/-- The path of the object with the identifier `id`. -/
def pathOf (o : Objects) (id : String) : List Char :=
  root.toList ++ '/' :: o.collection.toList ++ '/' :: Text.Percent.encode id.toList

/-- The `path` with the tenant of `o` in its query part. -/
def inTenant (o : Objects) (path : List Char) : List Char :=
  match o.tenant with
  | none => path
  | some t => path ++ "?tenant=".toList ++ Text.Percent.encode t.toList

/-- The path of the object that `id` identifies. -/
def objectPath (o : Objects) (id : Value) : Except Failure (List Char) := (idOf id).map o.pathOf

/-- The path of the object that `id` identifies, with the tenant of `o`. -/
def scopedPath (o : Objects) (id : Value) : Except Failure String :=
  (o.objectPath id).map fun path => String.ofList (o.inTenant path)

/-- The parameters that carry the tenant of `o`. -/
def tenantParams (o : Objects) : Value :=
  match o.tenant with
  | none => .null
  | some t => .dict [(.text "tenant", .text t)]

/-- The `body` with the tenant of `o`. -/
def withTenant (o : Objects) (body : Entries) : Entries :=
  match o.tenant with
  | none => body
  | some t => body.putText "tenant" (.text t)

/-- The body by which an object is created: its `properties` without an identifier, the identifier
if there is one, and the `vector` if there is one. The identifier is `id` or else the one among the
properties. -/
def creationBody (o : Objects) (properties id vector : Value) (normalize : Bool) :
    Except Failure Entries :=
  match properties with
  | .dict entries => do
    let id :=
      match id with
      | .null => (Entries.getText? "id" entries).getD .null
      | id => id
    -- The identifier is taken out of the properties wherever it comes from.
    let own := Entries.eraseText "id" entries
    let body : Entries := [(.text "class", .text o.collection), (.text "properties", .dict own)]
    let body :=
      match id with
      | .null => body
      | id => body.putText "id" id
    let body ←
      match vector with
      | .null => .ok body
      | v =>
        (Vector.coerce v normalize).map fun xs => body.putText "vector" (.list (xs.map .double))
    .ok (o.withTenant body)
  | v => .error (.invalid (.propertiesNotMapping v.typeName))

/-- The body by which an object is updated: its `properties` as they are. -/
def updateBody (o : Objects) (properties : Value) : Except Failure Entries := do
  let entries ← Entries.ofValue properties
  .ok (o.withTenant [(.text "class", .text o.collection), (.text "properties", .dict entries)])

variable {σ : Type}

/-- Creates an object of `properties` and returns it as the store does. -/
def create (o : Objects) (fx : Effects σ) (connection : Connection σ) (properties id vector : Value)
    (normalize : Bool) : Action σ Value := do
  let body ← Action.done (o.creationBody properties id vector normalize)
  fx.note .debug logger ("Creating object in '" ++ o.collection ++ "'")
  connection.perform ⟨.post, root, .dict body⟩

/-- Reads the object that `id` identifies. -/
def get (o : Objects) (connection : Connection σ) (id : Value) : Action σ Value := do
  let path ← Action.done (o.objectPath id)
  connection.perform ⟨.get, String.ofList path, o.tenantParams⟩

/-- Merges `properties` into the object that `id` identifies, then reads it. -/
def update (o : Objects) (connection : Connection σ) (id properties : Value) : Action σ Value := do
  let body ← Action.done (o.updateBody properties)
  let path ← Action.done (o.scopedPath id)
  let _ ← connection.perform ⟨.patch, path, .dict body⟩
  o.get connection id

/-- Deletes the object that `id` identifies and tells whether the store did so. -/
def delete (o : Objects) (connection : Connection σ) (id : Value) : Action σ Value := do
  let path ← Action.done (o.scopedPath id)
  connection.perform ⟨.delete, path, .null⟩

/-- Tells whether there is an object that `id` identifies. -/
def exists? (o : Objects) (connection : Connection σ) (id : Value) : Action σ Value := do
  let path ← Action.done (o.scopedPath id)
  connection.perform ⟨.head, path, .null⟩

end Objects

end ObjectStore
