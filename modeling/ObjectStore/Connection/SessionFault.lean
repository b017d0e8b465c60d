/-! # Session faults

What a session reports when it gets no answer at all: the class of the fault, the wider classes that
it belongs to, and its text. The classes decide how the fault is passed on; running out of time
comes first, since a connection that timed out is a failed connection too. -/

namespace ObjectStore

/-- A fault of a session. -/
structure SessionFault where
  /-- The name of the fault's class. -/
  name : String
  /-- The names of the wider classes, the nearest first. -/
  ancestry : List String
  message : String
deriving DecidableEq, Repr

/-- What a fault amounts to. -/
inductive SessionFault.Category
  | timeout
  | unreachable
  | truncated
  | other
deriving DecidableEq, Repr

namespace SessionFault

/-- The class of faults of running out of time. -/
def timeoutName : String := "Timeout"

/-- The class of faults of a connection that could not be made or was lost. -/
def unreachableName : String := "ConnectionError"

/-- The class of the faults of a body that was cut off. -/
def truncatedName : String := "ChunkedEncodingError"

/-- Whether the fault `f` belongs to the class `className`. -/
def isOf (f : SessionFault) (className : String) : Bool := (f.name :: f.ancestry).contains className

def category (f : SessionFault) : Category :=
  if f.isOf timeoutName then .timeout
  else if f.isOf unreachableName then .unreachable
  else if f.isOf truncatedName then .truncated
  else .other

/-- The known classes that belong to those that decide, each with the latter. -/
def knownAncestry : List (String × List String) :=
  [("ConnectTimeout", [unreachableName, timeoutName]), ("ReadTimeout", [timeoutName]),
   ("SSLError", [unreachableName]), ("ProxyError", [unreachableName])]

/-- The fault with `message` of a class that is known by its `name`. -/
def named (name message : String) : SessionFault :=
  ⟨name, (knownAncestry.lookup name).getD [], message⟩

end SessionFault

end ObjectStore
