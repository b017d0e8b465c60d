/-! # Log levels and records

The five levels that this library logs at, and what it hands to its logger. -/

namespace ObjectStore

/-- How much a record matters. -/
inductive Level
  | debug
  | info
  | warning
  | error
  | critical
deriving DecidableEq, Repr

namespace Level

/-- Every level, the least important first. -/
def all : List Level := [debug, info, warning, error, critical]

def name : Level → String
  | debug => "DEBUG"
  | info => "INFO"
  | warning => "WARNING"
  | error => "ERROR"
  | critical => "CRITICAL"

/-- The level of a name in capital letters. -/
def ofName? (s : String) : Option Level := all.find? (·.name == s)

/-- `ofName? l.name = some l`: every level is found by its name. -/
theorem ofName?_name (l : Level) : ofName? l.name = some l := by cases l <;> decide

/-- The number by which levels are compared. -/
def number : Level → Int
  | debug => 10
  | info => 20
  | warning => 30
  | error => 40
  | critical => 50

end Level

/-- A line for the log. -/
structure LogRecord where
  level : Level
  logger : String
  message : String
deriving DecidableEq, Repr

end ObjectStore
