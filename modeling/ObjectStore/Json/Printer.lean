import ObjectStore.Failure.Basic
import ObjectStore.Text.Escape

/-! # Printing JSON

A value as JSON text in printable ASCII, one item or entry a line, each level indented by two
spaces. Sequences are arrays; keys that are not texts are turned into texts if they are scalars;
what JSON has no form for is printed as the text in which it is written. -/

namespace ObjectStore.Json

/-- A line break and the indentation of a level. -/
def newline (level : Nat) : List Char := '\n' :: List.replicate (2 * level) ' '

/-- Pieces on lines of their own between two brackets; no pieces stay on one line. -/
def bracketed (opening closing : Char) (level : Nat) : List (List Char) → List Char
  | [] => [opening, closing]
  | piece :: pieces =>
    opening :: (newline (level + 1) ++ piece ++
      pieces.flatMap (fun p => ',' :: (newline (level + 1) ++ p)) ++ newline level ++ [closing])

/-- A double in JSON: its shortest text, or the name of what is not finite. -/
def doubleText : Double → List Char
  | .nan => "NaN".toList
  | .infinite s => if s then "-Infinity".toList else "Infinity".toList
  | x => x.text.toList

/-- The text of a key; only texts and scalars have one, and of these a whole number of too many
digits has none. -/
def keyText : Value → Except Failure (List Char)
  | .text s => .ok s.toList
  | .double x => .ok (doubleText x)
  | .bool b => .ok (if b then "true".toList else "false".toList)
  | .null => .ok "null".toList
  | .int n =>
    if Text.isWritable n then .ok (toString n).toList else .error (.badValue .numberTooLong)
  | k => .error (.misuse (.keyNotEncodable k.typeName))

mutual

/-- A value in JSON at a level of nesting, if it can be written. -/
def print (level : Nat) : Value → Except Failure (List Char)
  | .dict entries => (printEntries (level + 1) entries).map (bracketed '\x7b' '\x7d' level)
  | .list items => (printItems (level + 1) items).map (bracketed '[' ']' level)
  | .tuple items => (printItems (level + 1) items).map (bracketed '[' ']' level)
  | .null => .ok "null".toList
  | .bool b => .ok (if b then "true".toList else "false".toList)
  | .double x => .ok (doubleText x)
  | .int n =>
    if Text.isWritable n then .ok (toString n).toList else .error (.badValue .numberTooLong)
  | v =>
    if v.isWritable then .ok (Text.asciiLiteral v.written.toList)
    else .error (.badValue .numberTooLong)

/-- The items of a sequence in JSON. -/
def printItems (level : Nat) : List Value → Except Failure (List (List Char))
  | [] => .ok []
  | v :: vs => do
    let p ← print level v
    let ps ← printItems level vs
    .ok (p :: ps)

/-- The entries of a mapping in JSON. -/
def printEntries (level : Nat) : List (Value × Value) → Except Failure (List (List Char))
  | [] => .ok []
  | (k, v) :: es => do
    let key ← keyText k
    let p ← print level v
    let ps ← printEntries level es
    .ok ((Text.asciiLiteral key ++ ':' :: ' ' :: p) :: ps)

end

end ObjectStore.Json

namespace ObjectStore.Failure

/-- The message of a library error, followed by its context as JSON if it has one. -/
def detailedMessage : Failure → Except Failure Value
  | library _ m context _ =>
    if context.isEmpty then .ok m
    else if !m.isWritable then .error (.badValue .numberTooLong)
    else
      (Json.print 0 (.dict context)).map fun json =>
        .text (m.written ++ "\nContext: " ++ String.ofList json)
  | _ => .error missingAttribute

end ObjectStore.Failure
