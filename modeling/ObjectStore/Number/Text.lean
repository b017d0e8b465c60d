import ObjectStore.Number.Quantity
import ObjectStore.Number.Shortest

/-! # Text of numbers

How a number of any kind is shown: truth values by name, whole numbers by their digits, doubles by
their shortest text. -/

namespace ObjectStore

/-- The name of a truth value. -/
def truthName (b : Bool) : String := if b then "True" else "False"

namespace Number

/-- The text of a number. -/
def text : Number → String
  | bool b => truthName b
  | int n => toString n
  | double x => x.text

end Number

end ObjectStore
