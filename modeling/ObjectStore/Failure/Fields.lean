import ObjectStore.Filter.Wire
import ObjectStore.Value.Copyable
import ObjectStore.Value.Mapping

/-! # Failures from named fields

A failure of a class given by name, with its fields given by name too. Fields that the class does
not have, and missing fields that it needs, are refused.

* `Failure.ofFields`: the failure of a class with some fields.
* `Failure.asForeign`: a failure as a value. -/

namespace ObjectStore

namespace Failure

/-- Whether a copy of a failure can be made. It is made again from its message, so a failure of a
class that needs more than a message cannot be copied. -/
def copyable : Failure → Bool
  | library topic m context _ =>
    topic.messageSuffices && Value.allCopyable (m :: topic.attributes) &&
      Value.entriesCopyable context
  | badValue (.given m) => m.copyable
  | runtime m => m.copyable
  | _ => true

/-- How a failure is copied. -/
def copying (f : Failure) : Copying := if f.copyable then .possible else .impossible

/-- A failure as an object of which only the texts are known. -/
def asForeign (f : Failure) : Foreign :=
  let shown :=
    match f with
    | library _ m _ _ => m.shown
    | badValue (.given m) => m.shown
    | runtime m => m.shown
    | _ => Text.quoted f.message
  ⟨f.className, f.className ++ "(" ++ shown ++ ")", f.message, f.copying⟩

end Failure

namespace Given

/-- What is given, as a value; a failure is a foreign object. -/
def toValue : Given Failure → Value
  | value v => v
  | failure f => .foreign f.asForeign

/-- What is given, unless it is nothing. -/
def unlessNull : Given Failure → Option (Given Failure)
  | value .null => none
  | g => some g

/-- The name of the kind or the class of what is given. -/
def typeName : Given Failure → String
  | value v => v.typeName
  | failure f => f.className

/-- The text of what is given. -/
def written : Given Failure → String
  | value v => v.written
  | failure f => f.message

end Given

/-- The fields of a failure by name. -/
abbrev FailureFields := List (String × Given Failure)

namespace FailureFields

/-- Refuses fields of other names than those known. -/
def allow (className : String) (known : List String) (fields : FailureFields) :
    Except Failure Unit :=
  match fields.find? fun f => !known.contains f.1 with
  | some f => .error (.misuse (.unexpectedArgument className f.1))
  | none => .ok ()

/-- The value of a field that may be missing. -/
def valueOr (fields : FailureFields) (name : String) (standard : Value) : Value :=
  match fields.lookup name with
  | some field => field.toValue
  | none => standard

/-- The value of a field that is needed. -/
def needed (className : String) (fields : FailureFields) (name : String) : Except Failure Value :=
  match fields.lookup name with
  | some field => .ok field.toValue
  | none => .error (.misuse (.missingArgument className))

/-- What a field gives as the last failure behind another, if it is there. -/
def lastError? (fields : FailureFields) : Option (Given Failure) :=
  (fields.lookup "last_error").bind Given.unlessNull

/-- The context of a failure. -/
def context (fields : FailureFields) : Except Failure Entries :=
  Entries.ofOptional (valueOr fields "context" .null)

/-- The items of a value that is a sequence; what counts as false has none. -/
def itemsOf (v : Value) : Except Failure (List Value) :=
  if v.truthy then
    match v.items? with
    | some xs => .ok xs
    | none => .error (.misuse (.notIterable v.typeName))
  else .ok []

/-- The mapping of what is known of a failed attempt: of a record its details, of a filter the form
in which it is sent. -/
def detailsOf : Value → Except Failure Value
  | .attempt number error errorType kind timestamp delay =>
    .ok (.dict (Value.attemptEntries number error errorType kind timestamp delay))
  | .filter f => f.wire
  | _ => .error .missingAttribute

/-- The details of the failed attempts that are the items of a value. -/
def attemptsOf (v : Value) : Except Failure (List Value) :=
  match v.items? with
  | none => .error (.misuse (.notIterable v.typeName))
  | some items => items.mapM detailsOf

/-- Refuses values of which one cannot be written, where a message is made of them. -/
def written (vs : List Value) : Except Failure Unit :=
  if Value.allWritable vs then .ok () else .error (.badValue .numberTooLong)

end FailureFields

namespace Failure

open FailureFields

/-- The failure of a class with some fields. -/
def ofFields (className : String) (fields : FailureFields) : Except Failure Failure := do
  let allowed := fun known => allow className known fields
  let need := needed className fields
  let plain := fun topic => do
    allowed ["message", "context"]
    let context ← fields.context
    .ok (library topic (fields.valueOr "message" (.text "")) context none)
  match className with
  | "VectorClientError" => plain .general
  | "ValidationError" => plain .validation
  | "TransportError" => plain .transport
  | "ParseError" =>
    allowed ["message", "segment", "context"]
    let m ← need "message"
    let context ← fields.context
    .ok (parseError m (fields.valueOr "segment" .null) context)
  | "QueryError" =>
    allowed ["message", "errors", "context"]
    let m ← need "message"
    let context ← fields.context
    let errors ← itemsOf (fields.valueOr "errors" .null)
    .ok (queryError m errors context)
  | "ConnectionFailureError" =>
    allowed ["message", "url", "context"]
    let m ← need "message"
    let context ← fields.context
    .ok (connectionError m (fields.valueOr "url" .null) context)
  | "RequestTimeoutError" =>
    allowed ["message", "timeout", "context"]
    let m ← need "message"
    let context ← fields.context
    .ok (timeoutError m (fields.valueOr "timeout" .null) context)
  | "UnexpectedStatusError" =>
    allowed ["message", "status_code", "response_text", "context"]
    let m ← need "message"
    let code ← need "status_code"
    let context ← fields.context
    .ok (statusError m code (fields.valueOr "response_text" .null) context)
  | "NotFoundError" =>
    allowed ["message", "response_text", "context"]
    let context ← fields.context
    .ok (notFoundError (fields.valueOr "message" (.text notFoundMessage))
      (fields.valueOr "response_text" .null) context)
  | "InsufficientPermissionsError" =>
    allowed ["message", "response_text", "context"]
    let context ← fields.context
    .ok (forbiddenError (fields.valueOr "message" (.text forbiddenMessage))
      (fields.valueOr "response_text" .null) context)
  | "RetryExhaustedError" =>
    allowed ["description", "attempt_count", "attempts", "last_error_message", "last_error"]
    let description ← need "description"
    let count ← need "attempt_count"
    let attempts ← need "attempts"
    let last ← need "last_error_message"
    written [description, count, last]
    let attempts ← attemptsOf attempts
    .ok (exhaustedError description count attempts last fields.lastError?)
  | "OperationCancelledError" =>
    allowed ["description", "attempts", "last_error"]
    let description ← need "description"
    let attempts ← need "attempts"
    written [description]
    let attempts ← attemptsOf attempts
    .ok (cancelledError description attempts fields.lastError?)
  | "ValueError" =>
    allowed ["message"]
    .ok (badValue (.given (fields.valueOr "message" (.text ""))))
  | "RuntimeError" =>
    allowed ["message"]
    .ok (runtime (fields.valueOr "message" (.text "")))
  | _ => .error (.misuse (.missingArgument className))

end Failure

end ObjectStore
