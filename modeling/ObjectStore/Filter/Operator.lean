/-! # Operators of filters

The comparisons that a filter leaf may make and the two ways to combine filters, with the names by
which callers ask for them and the names that are sent. -/

namespace ObjectStore

/-- What a leaf asks of its property. -/
inductive Operator
  | equal
  | notEqual
  | greaterThan
  | greaterThanOrEqual
  | lessThan
  | lessThanOrEqual
  | like
  | isNull
  | containsAny
deriving DecidableEq, Repr

namespace Operator

/-- Every operator. -/
def all : List Operator :=
  [equal, notEqual, greaterThan, greaterThanOrEqual, lessThan, lessThanOrEqual, like, isNull,
    containsAny]

/-- The name by which callers ask for an operator. -/
def name : Operator → String
  | equal => "equal"
  | notEqual => "not_equal"
  | greaterThan => "greater_than"
  | greaterThanOrEqual => "greater_than_or_equal"
  | lessThan => "less_than"
  | lessThanOrEqual => "less_than_or_equal"
  | like => "like"
  | isNull => "is_null"
  | containsAny => "contains_any"

/-- The operator of a name. -/
def ofName? (s : String) : Option Operator := all.find? (·.name == s)

/-- `ofName? op.name = some op`: every operator is found by its name. -/
theorem ofName?_name (op : Operator) : ofName? op.name = some op := by cases op <;> decide

/-- The name that is sent. -/
def wireName : Operator → String
  | equal => "Equal"
  | notEqual => "NotEqual"
  | greaterThan => "GreaterThan"
  | greaterThanOrEqual => "GreaterThanEqual"
  | lessThan => "LessThan"
  | lessThanOrEqual => "LessThanEqual"
  | like => "Like"
  | isNull => "IsNull"
  | containsAny => "ContainsAny"

/-- `a.wireName = b.wireName` only if `a = b`: no two operators are sent by one name. -/
theorem wireName_inj {a b : Operator} (h : a.wireName = b.wireName) : a = b := by
  cases a <;> cases b <;> first | rfl | exact absurd h (by decide)

end Operator

/-- How the operands of a combined filter are joined. -/
inductive Connective
  | and
  | or
deriving DecidableEq, Repr

namespace Connective

/-- Both connectives. -/
def all : List Connective := [and, or]

/-- The name by which callers ask for a connective. -/
def name : Connective → String
  | and => "and"
  | or => "or"

/-- The connective of a name. -/
def ofName? (s : String) : Option Connective := all.find? (·.name == s)

/-- The name that is sent. -/
def wireName : Connective → String
  | and => "And"
  | or => "Or"

/-- The name of the function that joins filters so. -/
def builderName : Connective → String
  | and => "all_of"
  | or => "any_of"

end Connective

end ObjectStore
