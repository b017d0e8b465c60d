import ObjectStore.Connection.SessionFault
import ObjectStore.Failure.Invalid
import ObjectStore.Failure.Misuse
import ObjectStore.Value.Entries
import ObjectStore.Value.Writable

/-! # Failures

A call that does not return a result fails. The errors of this library carry a message, a context of
named details and, by their topic, further attributes; other failures are passed on as they arise.

* `Failure.className`: the name of a failure's class, `Failure.lineage`: with the wider classes of
  the library's errors after it.
* `Failure.message`: the text of a failure.
* `Failure.invalid`, `parseError`, `queryError`, …: the errors of this library, each with the
  details that its attributes add to the context.
* `Failure.rejected`, `Failure.unusable`: failures whose text shows a value, which may have no text
  of its own. -/

namespace ObjectStore

/-- What is given in the place of a failure: the failure itself, or any value. -/
inductive Given (ε : Type)
  | value (v : Value)
  | failure (e : ε)
deriving Repr

/-- What an error of this library is about, with the attributes that go with it. Failed attempts are
known by the mappings of their details. -/
inductive Topic (ε : Type)
  | general
  | validation
  | parse (segment : Value)
  | query (errors : List Value)
  | transport
  | connection (url : Value)
  | timeout (limit : Value)
  | status (code : Value) (body : Value)
  | notFound (body : Value)
  | forbidden (body : Value)
  | exhausted (description : Value) (count : Value) (attempts : List Value) (lastMessage : Value)
      (lastError : Option (Given ε))
  | cancelled (description : Value) (attempts : List Value) (lastError : Option (Given ε))
deriving Repr

/-- Why a call failed. -/
inductive Failure
  | library (topic : Topic Failure) (message : Value) (context : Entries) (cause : Option Failure)
  | misuse (m : Misuse)
  | badValue (b : BadValue)
  | runtime (message : Value)
  | missingAttribute
  | overflow
  | notImplemented
  | session (fault : SessionFault)
  | malformedJson
  | malformedYaml
  | unknownWord
  | emptyNumeral
  | endless
  | nestedTooDeep (part : String)
  | isDirectory
  | nameTooLong
deriving Repr

instance : Inhabited Failure := ⟨.overflow⟩

namespace Topic

variable {ε : Type}

/-- The name of the class of errors about a topic. -/
def className : Topic ε → String
  | general => "VectorClientError"
  | validation => "ValidationError"
  | parse _ => "ParseError"
  | query _ => "QueryError"
  | transport => "TransportError"
  | connection _ => "ConnectionFailureError"
  | timeout _ => "RequestTimeoutError"
  | status _ _ => "UnexpectedStatusError"
  | notFound _ => "NotFoundError"
  | forbidden _ => "InsufficientPermissionsError"
  | exhausted .. => "RetryExhaustedError"
  | cancelled .. => "OperationCancelledError"

/-- The wider classes of errors about a topic, the nearest first. -/
def ancestry : Topic ε → List String
  | general => []
  | connection _ => ["TransportError", "VectorClientError"]
  | timeout _ => ["TransportError", "VectorClientError"]
  | status _ _ => ["TransportError", "VectorClientError"]
  | notFound _ => ["UnexpectedStatusError", "TransportError", "VectorClientError"]
  | forbidden _ => ["UnexpectedStatusError", "TransportError", "VectorClientError"]
  | _ => ["VectorClientError"]

/-- Whether a message is enough to make an error about a topic. -/
def messageSuffices : Topic ε → Bool
  | status _ _ => false
  | exhausted .. => false
  | cancelled .. => false
  | _ => true

/-- The values that an error about a topic carries where a message is enough to make it. -/
def attributes : Topic ε → List Value
  | parse segment => [segment]
  | query errors => errors
  | connection url => [url]
  | timeout limit => [limit]
  | notFound body => [body]
  | forbidden body => [body]
  | _ => []

/-- The status code that an error reports. -/
def statusCode? : Topic ε → Option Value
  | status code _ => some code
  | notFound _ => some (.int 404)
  | forbidden _ => some (.int 403)
  | _ => none

/-- The details of the failed attempts that an error reports. -/
def attempts? : Topic ε → Option (List Value)
  | exhausted _ _ attempts _ _ => some attempts
  | cancelled _ attempts _ => some attempts
  | _ => none

/-- What is given as the last failure behind an error. -/
def lastError? : Topic ε → Option (Given ε)
  | exhausted _ _ _ _ e => e
  | cancelled _ _ e => e
  | _ => none

end Topic

namespace Failure

/-- The name of a failure's class. -/
def className : Failure → String
  | library topic _ _ _ => topic.className
  | misuse _ => "TypeError"
  | badValue _ => "ValueError"
  | runtime _ => "RuntimeError"
  | missingAttribute => "AttributeError"
  | overflow => "OverflowError"
  | notImplemented => "NotImplementedError"
  | session fault => fault.name
  | malformedJson => "JSONDecodeError"
  | malformedYaml => "YAMLError"
  | unknownWord => "KeyError"
  | emptyNumeral => "IndexError"
  | endless => "RecursionError"
  | nestedTooDeep _ => "RecursionError"
  | isDirectory => "IsADirectoryError"
  | nameTooLong => "OSError"

/-- The class of a library error and the wider ones; other failures have none of these. -/
def lineage : Failure → List String
  | library topic _ _ _ => topic.className :: topic.ancestry
  | _ => []

/-- The text of a failure. -/
def message : Failure → String
  | library _ m _ _ => m.written
  | misuse m => m.message
  | badValue b => b.message
  | runtime m => m.written
  | missingAttribute => "no such attribute"
  | overflow => "int too large to convert to float"
  | notImplemented => ""
  | session fault => fault.message
  | malformedJson => "malformed JSON"
  | malformedYaml => "malformed YAML"
  | unknownWord => "unknown word"
  | emptyNumeral => "empty numeral"
  | endless => "contains itself"
  | nestedTooDeep part =>
    "maximum recursion depth exceeded while decoding a JSON " ++ part ++ " from a unicode string"
  | isDirectory => "is a directory"
  | nameTooLong => "name too long"

/-- The failure behind a failure. -/
def cause? : Failure → Option Failure
  | library _ _ _ cause => cause
  | _ => none

/-- The details that a library error carries. -/
def context : Failure → Entries
  | library _ _ context _ => context
  | _ => []

/-- A failure with another behind it. -/
def causedBy (f cause : Failure) : Failure :=
  match f with
  | library topic m context _ => library topic m context (some cause)
  | f => f

/-- `(e.causedBy cause).className = e.className`: a failure behind another leaves its class. -/
@[simp] theorem className_causedBy (e cause : Failure) :
    (e.causedBy cause).className = e.className := by
  cases e <;> rfl

/-- A library error with one more detail; a key that cannot be hashed is refused. -/
def addContext (key value : Value) : Failure → Except Failure Failure
  | library topic m context cause =>
    if key.hashable then .ok (library topic m (context.put key value) cause)
    else .error (misuse (.notHashable key.typeName))
  | _ => .error missingAttribute

/-- A rejected argument. -/
def invalid (i : Invalid) : Failure := library .validation (.text i.message) [] none

/-- `(invalid i).className = "ValidationError"`: an objection is a validation error. -/
@[simp] theorem className_invalid (i : Invalid) : (invalid i).className = "ValidationError" := rfl

/-- `(invalid i).message = i.message`: an objection is told in its own words. -/
@[simp] theorem message_invalid (i : Invalid) : (invalid i).message = i.message := rfl

/-- A rejected value, which the objection writes. A value that cannot be written fails there. -/
def rejected (v : Value) (i : Invalid) : Failure :=
  if v.isWritable then invalid i else badValue .numberTooLong

/-- `(rejected v i).className` is that of an objection if `v` can be written, and otherwise that of
a bad value. -/
theorem className_rejected (v : Value) (i : Invalid) :
    (rejected v i).className = if v.isWritable then "ValidationError" else "ValueError" := by
  rw [rejected]
  split <;> rfl

/-- A value outside what is allowed, which the text shows. A value that cannot be written fails
there in the same way, with a text of its own. -/
def unusable (v : Value) (b : BadValue) : Failure :=
  badValue (if v.isWritable then b else .numberTooLong)

/-- An answer without the expected structure; the segment names the place. -/
def parseError (m segment : Value) (context : Entries) : Failure :=
  let context :=
    match segment with
    | .null => context
    | _ => context.putNew (.text "segment") segment
  library (.parse segment) m context none

/-- A query that the store rejected. -/
def queryError (m : Value) (errors : List Value) (context : Entries) : Failure :=
  library (.query errors) m (context.putNew (.text "graphql_errors") (.list errors)) none

/-- An error of the connection that is of no narrower class. -/
def transportError (m : Value) (context : Entries) : Failure := library .transport m context none

/-- A store that could not be reached. -/
def connectionError (m url : Value) (context : Entries) : Failure :=
  let context :=
    match url with
    | .null => context
    | _ => context.putNew (.text "url") url
  library (.connection url) m context none

/-- A request that ran out of time. -/
def timeoutError (m limit : Value) (context : Entries) : Failure :=
  let context :=
    match limit with
    | .null => context
    | _ => context.putNew (.text "timeout") limit
  library (.timeout limit) m context none

/-- An answer with an error status. -/
def statusError (m code body : Value) (context : Entries) : Failure :=
  library (.status code body) m (context.putNew (.text "status_code") code) none

/-- An answer that the resource does not exist. -/
def notFoundError (m body : Value) (context : Entries) : Failure :=
  library (.notFound body) m (context.putNew (.text "status_code") (.int 404)) none

/-- An answer that the credentials do not suffice. -/
def forbiddenError (m body : Value) (context : Entries) : Failure :=
  library (.forbidden body) m (context.putNew (.text "status_code") (.int 403)) none

/-- The message of a missing resource. -/
def notFoundMessage : String := "Resource not found"

/-- The message of missing rights. -/
def forbiddenMessage : String := "Insufficient permissions to perform this operation"

end Failure

/-- The mapping of the details of a failed attempt. -/
def Attempt.details (a : Attempt) : Value :=
  .dict (Value.attemptEntries (.int a.number) (.text a.error) (.text a.errorType) a.kind
    (.ofNumber a.timestamp) ((a.delay.map Value.ofNumber).getD .null))

namespace Failure

/-- An operation whose every attempt failed. -/
def exhaustedError (description count : Value) (attempts : List Value) (lastMessage : Value)
    (lastError : Option (Given Failure)) : Failure :=
  let m :=
    "'" ++ description.written ++ "' failed after " ++ count.written ++
      " attempts. Final error: " ++ lastMessage.written
  library (.exhausted description count attempts lastMessage lastError) (.text m)
    [(.text "operation", description), (.text "attempt_count", count),
     (.text "attempts", .list attempts), (.text "final_error", lastMessage)]
    none

/-- An operation that was cancelled before its next attempt. -/
def cancelledError (description : Value) (attempts : List Value)
    (lastError : Option (Given Failure)) : Failure :=
  let m :=
    "'" ++ description.written ++ "' cancelled after " ++ toString attempts.length ++ " attempts"
  library (.cancelled description attempts lastError) (.text m)
    [(.text "operation", description), (.text "attempts", .list attempts)]
    none

end Failure

end ObjectStore
