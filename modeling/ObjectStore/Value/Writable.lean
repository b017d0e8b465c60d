import ObjectStore.Text.Digits
import ObjectStore.Value.Basic

/-! # Values that can be written

A whole number of too many digits is not written in decimal, and no value that holds one is.

* `Value.isWritable`: whether a message can show a value. -/

namespace ObjectStore

/-- The first number with more digits than are written. -/
@[irreducible] def Text.firstUnwritten : Nat := Nat.pow 10 Text.maxDigits

/-- Whether the whole number `n` is written. -/
def Text.isWritable (n : Int) : Bool := n.natAbs < firstUnwritten

/-- Whether a literal can be written. -/
def Literal.isWritable : Literal → Bool
  | .int n => Text.isWritable n
  | _ => true

namespace Filter

mutual

/-- Whether a filter can be written. -/
def isWritable : Filter → Bool
  | comparison _ _ operand => operand.literals.all Literal.isWritable
  | conjunction _ fs => allWritable fs
  | _ => true

/-- Whether each of some filters can be written. -/
def allWritable : List Filter → Bool
  | [] => true
  | f :: fs => isWritable f && allWritable fs

end

end Filter

namespace Value

mutual

/-- Whether a message can show a value. -/
def isWritable : Value → Bool
  | int n => Text.isWritable n
  | list xs => allWritable xs
  | tuple xs => allWritable xs
  | set xs => allWritable xs
  | frozenset xs => allWritable xs
  | dict es => entriesWritable es
  | filter f => f.isWritable
  | attempt number error errorType _ timestamp delay =>
    isWritable number && isWritable error && isWritable errorType && isWritable timestamp &&
      isWritable delay
  | _ => true

/-- Whether a message can show each of some values. -/
def allWritable : List Value → Bool
  | [] => true
  | x :: xs => isWritable x && allWritable xs

/-- Whether a message can show each key and each value of some entries. -/
def entriesWritable : List (Value × Value) → Bool
  | [] => true
  | (k, v) :: es => isWritable k && isWritable v && entriesWritable es

end

/-- `(text s).isWritable = true`: a text is written as it is. -/
@[simp] theorem isWritable_text (s : String) : (text s).isWritable = true := by simp [isWritable]

/-- `(int n).isWritable = Text.isWritable n`: A whole number as a value is written exactly if the
number is. -/
@[simp] theorem isWritable_int (n : Int) : (int n).isWritable = Text.isWritable n := by
  rw [isWritable]

end Value

end ObjectStore
