import ObjectStore.Failure.Basic
import ObjectStore.Text.Escape

/-! # Literals of the query language

How a value is written inside a query: mappings between braces with bare keys, sequences between
square brackets, texts as escaped strings. The text under the key `operator` is the name of an
enumeration's member and stands bare. A whole number of too many digits is not written, and neither
is what holds one. -/

namespace ObjectStore.GraphQL

/-- Pieces joined by a comma and a space. -/
def commaJoin : List (List Char) → List Char
  | [] => []
  | [piece] => piece
  | piece :: pieces => piece ++ ',' :: ' ' :: commaJoin pieces

/-- A double in a query: its shortest text, or the name of what is not finite. -/
def doubleText : Double → List Char
  | .nan => "NaN".toList
  | .infinite s => if s then "-Infinity".toList else "Infinity".toList
  | x => x.text.toList

/-- Whether the text under a key stands bare. -/
def isEnumKey : Value → Bool
  | .text s => s == "operator"
  | _ => false

/-- The text of the key `k`, if it can be written. -/
def keyText (k : Value) : Except Failure (List Char) :=
  if k.isWritable then .ok k.written.toList else .error (.badValue .numberTooLong)

/-- `keyText (.text s) = .ok s.toList`: a text that is a key is written as it is. -/
@[simp] theorem keyText_text (s : String) : keyText (.text s) = .ok s.toList := by
  simp [keyText, Value.written]

mutual

/-- A value in a query; the flag says that a text stands bare. -/
def literal (isEnum : Bool) : Value → Except Failure (List Char)
  | .dict entries => (fields entries).map fun ps => '\x7b' :: (commaJoin ps ++ ['\x7d'])
  | .list items => (literals items).map fun ps => '[' :: (commaJoin ps ++ [']'])
  | .tuple items => (literals items).map fun ps => '[' :: (commaJoin ps ++ [']'])
  | .bool b => .ok (if b then "true".toList else "false".toList)
  | .null => .ok "null".toList
  | .text s => .ok (if isEnum then s.toList else Text.literal s.toList)
  | .int n =>
    if Text.isWritable n then .ok (toString n).toList else .error (.badValue .numberTooLong)
  | .double x => .ok (doubleText x)
  | v => .error (.invalid (.notEncodable v.typeName))

/-- The items of a sequence in a query. -/
def literals : List Value → Except Failure (List (List Char))
  | [] => .ok []
  | v :: vs => do
    let p ← literal false v
    let ps ← literals vs
    .ok (p :: ps)

/-- The entries of a mapping in a query. -/
def fields : List (Value × Value) → Except Failure (List (List Char))
  | [] => .ok []
  | (k, v) :: es => do
    let key ← keyText k
    let p ← literal (isEnumKey k) v
    let ps ← fields es
    .ok ((key ++ ':' :: ' ' :: p) :: ps)

end

/-- The text of `v` in a query, below `key` if there is one. -/
def text (v : Value) (key : Option String) : Except Failure String :=
  (literal (key == some "operator") v).map String.ofList

end ObjectStore.GraphQL
