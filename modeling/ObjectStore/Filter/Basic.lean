import ObjectStore.Filter.Literal
import ObjectStore.Filter.Operator

/-! # Filters

A filter is a tree: leaves compare a property with literals or ask whether it is null, inner nodes
join filters by a connective. A bare node stands for no condition and cannot be sent.

* `Filter.same`: equality of trees, literals by `Literal.same`.
* `Filter.shown`: how messages show a filter. -/

namespace ObjectStore

/-- What a comparison compares with: one literal, or the list of a membership test. -/
inductive Operand
  | single (v : Literal)
  | many (vs : List Literal)
deriving DecidableEq, Repr

namespace Operand

/-- The literals of an operand. -/
def literals : Operand → List Literal
  | single v => [v]
  | many vs => vs

/-- Whether two operands are equal: literals pairwise, one literal never like a list. -/
def same : Operand → Operand → Bool
  | single a, single b => a.same b
  | many as, many bs => as.length == bs.length && (as.zip bs).all fun (a, b) => a.same b
  | _, _ => false

/-- Items between round brackets; a single item keeps a comma. -/
def shownTuple : List String → String
  | [item] => "(" ++ item ++ ",)"
  | items => "(" ++ ", ".intercalate items ++ ")"

/-- How a message shows an operand. -/
def shown : Operand → String
  | single v => v.shown
  | many vs => shownTuple (vs.map Literal.shown)

end Operand

/-- A condition on objects. -/
inductive Filter
  | bare
  | comparison (property : String) (operator : Operator) (operand : Operand)
  | nullCheck (property : String) (isNull : Bool)
  | conjunction (kind : Connective) (operands : List Filter)
deriving Repr

namespace Filter

/-- The name of a node's kind. -/
def kindName : Filter → String
  | bare => "Filter"
  | comparison .. => "Comparison"
  | nullCheck .. => "NullCheck"
  | conjunction .. => "Conjunction"

mutual

/-- Whether two filters are equal. A bare node is equal to none. -/
def same : Filter → Filter → Bool
  | comparison p op v, comparison q oq w => p == q && op == oq && v.same w
  | nullCheck p b, nullCheck q c => p == q && b == c
  | conjunction k fs, conjunction l gs => sameAll fs gs && k == l
  | _, _ => false

/-- Whether two lists of filters are equal item by item. -/
def sameAll : List Filter → List Filter → Bool
  | [], [] => true
  | f :: fs, g :: gs => same f g && sameAll fs gs
  | _, _ => false

end

mutual

/-- How a message shows a filter. -/
def shown : Filter → String
  | bare => "<Filter>"
  | comparison p op v => "Comparison(" ++ p ++ " " ++ op.name ++ " " ++ v.shown ++ ")"
  | nullCheck p b => "NullCheck(" ++ p ++ " is_null=" ++ truthName b ++ ")"
  | conjunction k fs => "Conjunction(" ++ k.name ++ ", [" ++ ", ".intercalate (shownAll fs) ++ "])"

/-- How a message shows each of some filters. -/
def shownAll : List Filter → List String
  | [] => []
  | f :: fs => shown f :: shownAll fs

end

end Filter

end ObjectStore
