import ObjectStore.Action

/-! # Connections

A connection performs calls: each has a method, a path and a payload, and is answered by a value. -/

namespace ObjectStore

/-- The method of a call. -/
inductive Method
  | get
  | post
  | put
  | patch
  | delete
  | head
deriving DecidableEq, Repr

/-- The name of a method. -/
def Method.name : Method → String
  | get => "GET"
  | post => "POST"
  | put => "PUT"
  | patch => "PATCH"
  | delete => "DELETE"
  | head => "HEAD"

/-- A call: the payload is the parameters of a `get` and the body of a `post`, `put` or `patch`. -/
structure Call where
  method : Method
  path : String
  payload : Value
deriving Repr

/-- A way to have calls answered. -/
structure Connection (σ : Type) where
  /-- Performs a call and returns the answer. -/
  perform : Call → Action σ Value
  /-- Releases what the connection holds. -/
  close : σ → σ

end ObjectStore
