import ObjectStore.Number.Text
import ObjectStore.Text.Quoted

/-! # Attempts

The kinds of failure that decide whether an operation is tried again, and the record that is kept
of each failed attempt. -/

namespace ObjectStore

/-- The kinds of failure. -/
inductive ErrorKind
  | connectionFailure
  | timeout
  | gatewayStatus
  | otherStatus
  | other
deriving DecidableEq, Repr

namespace ErrorKind

/-- Every kind. -/
def all : List ErrorKind := [connectionFailure, timeout, gatewayStatus, otherStatus, other]

def name : ErrorKind → String
  | connectionFailure => "connection_failure"
  | timeout => "timeout"
  | gatewayStatus => "gateway_status"
  | otherStatus => "other_status"
  | other => "other"

/-- The kind of a name. -/
def ofName? (s : String) : Option ErrorKind := all.find? (·.name == s)

/-- The name of a kind in capital letters. -/
def label : ErrorKind → String
  | connectionFailure => "CONNECTION_FAILURE"
  | timeout => "TIMEOUT"
  | gatewayStatus => "GATEWAY_STATUS"
  | otherStatus => "OTHER_STATUS"
  | other => "OTHER"

/-- How a message shows a kind. -/
def shown (k : ErrorKind) : String := "<ErrorKind." ++ k.label ++ ": " ++ Text.quoted k.name ++ ">"

/-- Whether an operation that failed so may be tried again. -/
def retriable : ErrorKind → Bool
  | connectionFailure => true
  | timeout => true
  | gatewayStatus => true
  | otherStatus => false
  | other => false

end ErrorKind

/-- One failed attempt of an operation. -/
structure Attempt where
  /-- Which attempt it was, from one. -/
  number : Int
  /-- The message of the failure. -/
  error : String
  /-- The name of the failure's class. -/
  errorType : String
  kind : ErrorKind
  /-- The clock reading when the attempt had failed. -/
  timestamp : Number
  /-- The pause before the next attempt, if there was to be one. -/
  delay : Option Number
deriving DecidableEq, Repr

end ObjectStore
