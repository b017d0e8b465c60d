import ObjectStore.Time.Calendar
import ObjectStore.Value.Shown

/-! # Misuse

Operations on values of a kind that they do not take, and values that are of the right kind but
outside what is allowed, where no check of this library objects first. -/

namespace ObjectStore

/-- An operation on a value of a kind that it does not take. -/
inductive Misuse
  | unordered (relation left right : String)
  | unsupported (sign left right : String)
  | unexpectedArgument (callee name : String)
  | repeatedArgument (callee name : String)
  | missingArgument (callee : String)
  | argumentsNotMapping (callee kind : String)
  | argumentNameNotText
  | notNumeric (kind : String)
  | notIterable (kind : String)
  | notHashable (kind : String)
  | notText (kind : String)
  | keyNotEncodable (kind : String)
  | levelNotNumber
deriving DecidableEq, Repr

/-- The wording of a misuse. -/
def Misuse.message : Misuse → String
  | unordered relation left right =>
    "'" ++ relation ++ "' not supported between instances of '" ++ left ++ "' and '" ++ right ++ "'"
  | unsupported sign left right =>
    "unsupported operand type(s) for " ++ sign ++ ": '" ++ left ++ "' and '" ++ right ++ "'"
  | unexpectedArgument callee name =>
    callee ++ ".__init__() got an unexpected keyword argument '" ++ name ++ "'"
  | repeatedArgument callee name =>
    callee ++ ".__init__() got multiple values for argument '" ++ name ++ "'"
  | missingArgument callee => callee ++ ".__init__() missing a required argument"
  | argumentsNotMapping callee kind =>
    callee ++ "() argument after ** must be a mapping, not " ++ kind
  | argumentNameNotText => "keywords must be strings"
  | notNumeric kind => "float() argument must be a string or a real number, not '" ++ kind ++ "'"
  | notIterable kind => "'" ++ kind ++ "' object is not iterable"
  | notHashable kind => "unhashable type: '" ++ kind ++ "'"
  | notText kind => "expected a string, got '" ++ kind ++ "'"
  | keyNotEncodable kind => "keys must be str, int, float, bool or None, not " ++ kind
  | levelNotNumber => "Level not an integer or a valid string"

/-- A value of the right kind but outside what is allowed. -/
inductive BadValue
  | attemptNumber (got : Value)
  | entryLength (index length : Nat)
  | notNumeral (got : Value)
  | ragged (shape : List Nat)
  | unknownLevel (got : String)
  | notMember (type : String) (got : Value)
  | numeralTooLong (digits : Nat)
  | numberTooLong
  | notWhole (base : Nat) (got : String)
  | notCharacter
  | calendar (fault : CalendarFault)
  | given (message : Value)
deriving Repr

/-- The wording of a bad value. -/
def BadValue.message : BadValue → String
  | attemptNumber v => "attempt must be >= 1, got " ++ v.written
  | entryLength index length =>
    "dictionary update sequence element #" ++ toString index ++ " has length " ++ toString length ++
      "; 2 is required"
  | notNumeral v => "could not convert string to float: " ++ v.shown
  | ragged shape =>
    "setting an array element with a sequence. The requested array has an inhomogeneous shape " ++
      "after " ++ toString shape.length ++ " dimensions. The detected shape was " ++
      Operand.shownTuple (shape.map toString) ++ " + inhomogeneous part."
  | unknownLevel got => "Unknown level: " ++ Text.quoted got
  | notMember type v => v.shown ++ " is not a valid " ++ type
  | numeralTooLong digits =>
    "Exceeds the limit (4300 digits) for integer string conversion: value has " ++
      toString digits ++ " digits; use sys.set_int_max_str_digits() to increase the limit"
  | numberTooLong =>
    "Exceeds the limit (4300 digits) for integer string conversion; use " ++
      "sys.set_int_max_str_digits() to increase the limit"
  | notWhole base got =>
    "invalid literal for int() with base " ++ toString base ++ ": " ++
      String.ofList ((Text.quoted got).toList.take 200)
  | notCharacter => "chr() arg not in range(0x110000)"
  | calendar fault => fault.message
  | given v => v.written

end ObjectStore
