import ObjectStore.Number.Double

/-! # Exact quantities

Whole numbers of any size and doubles are compared by their exact values, never by rounding one to
the other's kind. A quantity that is not a number is neither below, above nor equal to any other. -/

namespace ObjectStore

/-- An exact value: not a number, an infinity, or a whole number of units of 2^-1074. -/
inductive Quantity
  | nan
  | infinite (negative : Bool)
  | exact (units : Int)
deriving DecidableEq, Repr

namespace Quantity

def ofInt (n : Int) : Quantity := exact (n * Double.one)

def ofDouble : Double → Quantity
  | .nan => nan
  | .infinite s => infinite s
  | .finite s u _ => exact (Double.signed s u)

/-- Whether one quantity is below another. -/
def lt : Quantity → Quantity → Bool
  | nan, _ => false
  | _, nan => false
  | infinite s, infinite t => s && !t
  | infinite s, exact _ => s
  | exact _, infinite t => !t
  | exact a, exact b => a < b

/-- Whether two quantities are equal. -/
def eq : Quantity → Quantity → Bool
  | nan, _ => false
  | _, nan => false
  | infinite s, infinite t => s == t
  | exact a, exact b => a == b
  | _, _ => false

/-- Whether `a` is below `b` or equal to it. -/
def le (a b : Quantity) : Bool := lt a b || eq a b

/-- `lt (exact a) (exact b) = decide (a < b)`: exact quantities are ordered as their units are. -/
@[simp] theorem lt_exact (a b : Int) : lt (exact a) (exact b) = decide (a < b) := rfl

/-- `eq (exact a) (exact b) = (a == b)`: exact quantities are equal if their units are. -/
@[simp] theorem eq_exact (a b : Int) : eq (exact a) (exact b) = (a == b) := rfl

end Quantity

/-- A number as callers give it: a truth value counts as one or zero. -/
inductive Number
  | bool (b : Bool)
  | int (n : Int)
  | double (x : Double)
deriving DecidableEq, Repr

namespace Number

/-- The whole number of a truth value. -/
def ofBool (b : Bool) : Int := if b then 1 else 0

def quantity : Number → Quantity
  | bool b => Quantity.ofInt (ofBool b)
  | int n => Quantity.ofInt n
  | double x => Quantity.ofDouble x

/-- The double nearest to a number; a whole number beyond the range has none. -/
def toDouble? : Number → Option Double
  | bool b => Double.ofInt? (ofBool b)
  | int n => Double.ofInt? n
  | double x => some x

def lt (a b : Number) : Bool := Quantity.lt a.quantity b.quantity

def le (a b : Number) : Bool := Quantity.le a.quantity b.quantity

def eq (a b : Number) : Bool := Quantity.eq a.quantity b.quantity

/-- The smaller of two numbers: `a` unless `b` is below it. -/
def least (a b : Number) : Number := if b.lt a then b else a

/-- `least a b` is `a` or `b`. -/
theorem least_eq (a b : Number) : least a b = a ∨ least a b = b := by
  unfold least; split <;> simp

end Number

end ObjectStore
