import ObjectStore.Connection.Basic
import ObjectStore.Json.Reader
import ObjectStore.Retry.Run
import ObjectStore.Value.Mapping

/-! # Connections over HTTP

A call becomes a request of a session: the path is put after the base address, the payload becomes
parameters or a JSON body, and every request carries the connection's headers and time limit. Faults
of the session and error statuses become errors of this library; other answers are decoded.

* `HttpConnection.make`: a connection from values.
* `HttpConnection.single`: a call answered by one request.
* `HttpConnection.perform`: a call, with retries if the connection has a policy. -/

namespace ObjectStore

/-- A request of a session. -/
structure Request where
  method : Method
  url : String
  params : Value
  json : Value
  headers : Entries
  timeout : Value
deriving Repr

/-- The answer to a request. -/
structure Response where
  status : Int
  body : String
deriving DecidableEq, Repr

/-- A way to have requests answered. -/
structure Session (σ : Type) where
  /-- Sends a request; there may be no answer. -/
  request : Request → σ → Except SessionFault Response × σ
  /-- Closes the session. -/
  close : σ → σ

/-- The action that sends a request. -/
def Session.send {σ : Type} (session : Session σ) (r : Request) :
    Action σ (Except SessionFault Response) := fun s =>
  let (outcome, s) := session.request r s
  (.ok outcome, s)

/-- A connection over HTTP. -/
structure HttpConnection where
  /-- The address of the store, without slashes at its end. -/
  baseUrl : String
  /-- The time limit of each request. -/
  timeout : Value
  headers : Entries
  retry : Option RetryPolicy
  /-- Whether the session is closed with the connection. -/
  ownsSession : Bool
deriving Repr

namespace HttpConnection

/-- The name under which requests are logged. -/
def logger : String := "vectorclient.connection.http"

/-- The text `cs` without the slashes at its end. -/
def trimSlashes (cs : List Char) : List Char := (cs.reverse.dropWhile (· == '/')).reverse

/-- The address that a value gives. -/
def addressOf : Value → Except Failure String
  | .text s => .ok (String.ofList (trimSlashes s.toList))
  | .bytes _ => .error (.misuse (.notText "bytes"))
  | _ => .error .missingAttribute

/-- The `headers` with `apiKey` as a bearer token, if one is given. The token is the text of the
key, so a key that cannot be written fails. -/
def authorized (headers : Entries) (apiKey : Value) : Except Failure Entries :=
  if !apiKey.truthy then .ok headers
  else if !apiKey.isWritable then .error (.badValue .numberTooLong)
  else .ok (headers.putText "Authorization" (.text ("Bearer " ++ apiKey.written)))

/-- A connection from values: `headers` are put over the standard ones, and `apiKey` is sent as a
bearer token. -/
def make (url apiKey timeout headers : Value) (retry : Option RetryPolicy) (ownsSession : Bool) :
    Except Failure HttpConnection := do
  let baseUrl ← addressOf url
  let more ← Entries.ofOptional headers
  let headers := Entries.putAll [(.text "Accept", .text "application/json")] more
  let headers ← authorized headers apiKey
  .ok ⟨baseUrl, timeout, headers, retry, ownsSession⟩

/-- The address of `path` at the store of `c`. -/
def url (c : HttpConnection) (path : String) : String := c.baseUrl ++ path

/-- The request of `call`. -/
def requestOf (c : HttpConnection) (call : Call) : Request :=
  let params := if call.method = .get then call.payload else .null
  let json :=
    match call.method with
    | .post => call.payload
    | .put => call.payload
    | .patch => call.payload
    | _ => .null
  ⟨call.method, c.url call.path, params, json, c.headers, c.timeout⟩

/-- The error that `fault` becomes. That a request timed out is told with `c.timeout`, and one that
cannot be written fails there. -/
def faultError (c : HttpConnection) (call : Call) (fault : SessionFault) : Failure :=
  let url := c.url call.path
  let what := call.method.name ++ " " ++ call.path
  -- The fault is kept as the cause of the error, whichever error it becomes.
  let e :=
    match fault.category with
    | .timeout =>
      if c.timeout.isWritable then
        Failure.timeoutError (.text (what ++ " timed out after " ++ c.timeout.written ++ "s"))
          c.timeout [(.text "url", .text url)]
      else .badValue .numberTooLong
    | .unreachable =>
      Failure.connectionError (.text ("Failed to connect to " ++ url ++ ": " ++ fault.message))
        (.text url) []
    | .truncated =>
      Failure.connectionError
        (.text ("Connection to " ++ url ++ " dropped while reading the response: " ++
          fault.message))
        (.text url) []
    | .other =>
      Failure.transportError (.text (what ++ " failed: " ++ fault.message))
        [(.text "url", .text url), (.text "error_type", .text fault.name)]
  e.causedBy (.session fault)

/-- The error that the error status of `r` becomes. -/
def statusError (c : HttpConnection) (call : Call) (r : Response) : Failure :=
  let context : Entries :=
    [(.text "operation", .text (call.method.name ++ " " ++ call.path)),
     (.text "url", .text (c.url call.path))]
  if r.status = 403 then
    Failure.forbiddenError (.text Failure.forbiddenMessage) (.text r.body) context
  else if r.status = 404 then
    Failure.notFoundError (.text Failure.notFoundMessage) (.text r.body) context
  else
    Failure.statusError (.text ("HTTP request failed with status " ++ toString r.status))
      (.int r.status) (.text r.body) context

/-- Whether `status` reports success. -/
def isSuccess (status : Int) : Bool := 200 ≤ status && status < 300

/-- The value of `body`: an empty one is an empty mapping, any other has to be JSON. That it is
nested too deep is passed on as it is. -/
def decode (call : Call) (body : String) : Except Failure Value :=
  if body.isEmpty then .ok (.dict [])
  else
    match Json.read body with
    | .ok v => .ok v
    | .error (.nestedTooDeep part) => .error (.nestedTooDeep part)
    | .error e =>
      let m := call.method.name ++ " " ++ call.path ++ " returned a non-JSON body"
      .error ((Failure.parseError (.text m) .null
        [(.text "body", .text (String.ofList (body.toList.take 200)))]).causedBy e)

/-- What a call returns on an answer. A `head` tells whether the resource exists and a `delete`
whether it succeeded; the other methods return the decoded body. -/
def answer (c : HttpConnection) (call : Call) (r : Response) : Except Failure Value :=
  if call.method = .head && r.status = 404 then .ok (.bool false)
  else if 400 ≤ r.status then .error (c.statusError call r)
  else
    match call.method with
    | .head => .ok (.bool (isSuccess r.status))
    | .delete => .ok (.bool (isSuccess r.status))
    | _ => decode call r.body

variable {σ : Type}

/-- The answer to `call` by one request. -/
def single (c : HttpConnection) (fx : Effects σ) (session : Session σ) (call : Call) :
    Action σ Value := do
  fx.note .debug logger (call.method.name ++ " " ++ c.url call.path)
  match ← session.send (c.requestOf call) with
  | .error fault => throw (c.faultError call fault)
  | .ok r => Action.done (c.answer call r)

/-- The answer to `call`, which is tried again as `c.retry` says. -/
def perform (c : HttpConnection) (fx : Effects σ) (session : Session σ) (call : Call) :
    Action σ Value :=
  match c.retry with
  | none => c.single fx session call
  | some policy =>
    policy.run fx (fun _ => false) (call.method.name ++ " " ++ call.path) (c.single fx session call)

/-- The connection `c` as a way to have calls answered. -/
def connection (c : HttpConnection) (fx : Effects σ) (session : Session σ) : Connection σ where
  perform := c.perform fx session
  close := fun s => if c.ownsSession then session.close s else s

end HttpConnection

end ObjectStore
