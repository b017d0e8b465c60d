import ObjectStore.Collection
import ObjectStore.Connection.Http
import ObjectStore.Settings.Config

/-! # Clients

A client holds a connection and hands out handles on collections. It is made over a connection that
is there already, from an address, or from settings. -/

namespace ObjectStore

/-- A client over a connection of some kind. -/
structure Client (κ : Type) where
  connection : κ
  emptySelection : EmptySelection
deriving Repr

namespace Client

/-- The name under which clients are logged. -/
def logger : String := "vectorclient.core.client"

/-- The path that tells whether the store is ready. -/
def readyPath : String := "/v1/.well-known/ready"

variable {κ σ : Type}

/-- A client over `connection`. -/
def ofConnection (connection : κ) (emptySelection : Value) : Except Failure (Client κ) :=
  (EmptySelection.ofValue emptySelection).map fun p => ⟨connection, p⟩

/-- A client over a new connection to `url`. -/
def connect (fx : Effects σ) (url apiKey timeout headers : Value) (retry : Option RetryPolicy) :
    Action σ (Client HttpConnection) := do
  let c ← Action.done (HttpConnection.make url apiKey timeout headers retry true)
  fx.note .info logger ("Connected client to " ++ c.baseUrl)
  return ⟨c, .idOnly⟩

/-- The connection that the settings `s` describe. -/
def connectionOf (s : Settings) : Except Failure HttpConnection :=
  HttpConnection.make s.connection.url s.connection.apiKey (.ofNumber s.connection.timeout)
    s.connection.headers (if s.retry.enabled.truthy then some s.retry.policy else none) true

/-- A client made from the settings `s`. The log level is set first. -/
def ofSettings (fx : Effects σ) (s : Settings) : Action σ (Client HttpConnection) := do
  Action.change (fx.setLevel s.logLevel)
  let c ← Action.done (connectionOf s)
  return ⟨c, s.emptySelection⟩

/-- A client made from the configuration of `source` at the `path` that is asked for. -/
def ofConfig (fx : Effects σ) (source : ConfigSource) (path : Value) :
    Action σ (Client HttpConnection) := do
  let s ← Action.done (source.load path)
  ofSettings fx s

/-- A handle on the collection `name`. -/
def collection (c : Client κ) (name tenant defaults : Value) : Except Failure Collection :=
  Collection.make name tenant defaults c.emptySelection

/-- Asks at `readyPath` whether the store is ready. -/
def isReady (connection : Connection σ) : Action σ Value :=
  connection.perform ⟨.head, readyPath, .null⟩

end Client

end ObjectStore
