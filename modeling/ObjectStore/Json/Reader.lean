import ObjectStore.Failure.Basic
import ObjectStore.Number.Reader

/-! # Reading JSON

A JSON text as a value. Whole numbers and doubles are kept apart; `NaN`, `Infinity` and `-Infinity`
are numerals too; of entries with equal keys the last value stays at the first place. A byte-order
mark is no blank. Arrays and objects are nested to a bounded depth. -/

namespace ObjectStore.Json

/-- Whether a character may stand between the parts of a JSON text. -/
def isSpace (c : Char) : Bool := c == ' ' || c == '\t' || c == '\n' || c == '\r'

/-- A text without the space at its front. -/
def skip (cs : List Char) : List Char := cs.dropWhile isSpace

/-- The rest of a text after a word at its front. -/
def after? (word : List Char) (cs : List Char) : Option (List Char) :=
  if word.isPrefixOf cs then some (cs.drop word.length) else none

/-- The number of four hexadecimal digits at the front, and the rest. -/
def takeUnit? : List Char → Option (Nat × List Char)
  | a :: b :: c :: d :: cs =>
    if [a, b, c, d].all (fun x => (Text.digitValue? 16 x).isSome) then
      some (Text.digitsNat 16 [a, b, c, d], cs)
    else none
  | _ => none

/-- The character that a one-letter escape stands for. -/
def simpleEscape? : Char → Option Char
  | '"' => some '"'
  | '\\' => some '\\'
  | '/' => some '/'
  | 'b' => some '\x08'
  | 'f' => some '\x0c'
  | 'n' => some '\n'
  | 'r' => some '\r'
  | 't' => some '\t'
  | _ => none

/-- The character of an escaped unit and the rest; a high surrogate takes the low one that follows
it. A surrogate on its own is no character and is replaced. -/
def takeEscapedUnit? (cs : List Char) : Option (Char × List Char) :=
  (takeUnit? cs).map fun (n, rest) =>
    let replaced := (Char.ofNat 0xFFFD, rest)
    if 0xD800 ≤ n && n < 0xDC00 then
      match rest with
      | '\\' :: 'u' :: more =>
        match takeUnit? more with
        | some (m, rest) =>
          if 0xDC00 ≤ m && m < 0xE000 then
            (Char.ofNat (0x10000 + (n - 0xD800) * 0x400 + (m - 0xDC00)), rest)
          else replaced
        | none => replaced
      | _ => replaced
    else if 0xDC00 ≤ n && n < 0xE000 then replaced
    else (Char.ofNat n, rest)

/-- The characters of a string up to its closing quote, and the rest. -/
def readChars : Nat → List Char → Except Failure (List Char × List Char)
  | 0, _ => .error .malformedJson
  | fuel + 1, cs =>
    match cs with
    | [] => .error .malformedJson
    | '"' :: rest => .ok ([], rest)
    | '\\' :: 'u' :: rest =>
      match takeEscapedUnit? rest with
      | none => .error .malformedJson
      | some (c, rest) => (readChars fuel rest).map fun (cs, rest) => (c :: cs, rest)
    | '\\' :: e :: rest =>
      match simpleEscape? e with
      | none => .error .malformedJson
      | some c => (readChars fuel rest).map fun (cs, rest) => (c :: cs, rest)
    | c :: rest =>
      if c.toNat < 0x20 || c == '\\' then .error .malformedJson
      else (readChars fuel rest).map fun (cs, rest) => (c :: cs, rest)

/-- Digits at the front, and the rest. -/
def takeDigits (cs : List Char) : List Char × List Char :=
  (cs.takeWhile Char.isDigit, cs.dropWhile Char.isDigit)

/-- The fraction at the front, if there is a whole one. -/
def takeFraction (cs : List Char) : Option (List Char) × List Char :=
  match cs with
  | '.' :: more =>
    let (ds, rest) := takeDigits more
    if ds.isEmpty then (none, cs) else (some ds, rest)
  | _ => (none, cs)

/-- The exponent at the front, if there is a whole one. -/
def takeExponent (cs : List Char) : Option Int × List Char :=
  match cs with
  | c :: more =>
    if c == 'e' || c == 'E' then
      let (negative, more) := Double.takeSign more
      let (ds, rest) := takeDigits more
      let n : Int := Text.decimalNat ds
      if ds.isEmpty then (none, cs) else (some (if negative then -n else n), rest)
    else (none, cs)
  | [] => (none, cs)

/-- The numeral at the front; the sign has been read. -/
def readNumeral (negative : Bool) (cs : List Char) : Except Failure (Value × List Char) :=
  let (whole, rest) :=
    match cs with
    | '0' :: rest => (['0'], rest)
    | _ => takeDigits cs
  if whole.isEmpty then .error .malformedJson
  else
    let (fraction?, rest) := takeFraction rest
    let (exponent?, rest) := takeExponent rest
    match fraction?, exponent? with
    | none, none =>
      -- A whole number has a limit of its digits, and a fraction has none.
      if Text.maxDigits < whole.length then .error (.badValue (.numeralTooLong whole.length))
      else
        let n : Int := Text.decimalNat whole
        .ok (.int (if negative then -n else n), rest)
    | _, _ =>
      let fraction := fraction?.getD []
      let digits := whole ++ fraction
      let x :=
        Double.ofDecimal negative (Text.decimalNat digits) digits.length
          (exponent?.getD 0 - fraction.length)
      .ok (.double x, rest)

/-- The words that stand for values. -/
def words : List (List Char × Value) :=
  [("null".toList, .null), ("true".toList, .bool true), ("false".toList, .bool false),
   ("NaN".toList, .double .nan), ("Infinity".toList, .double (.infinite false)),
   ("-Infinity".toList, .double (.infinite true))]

/-- A value that is neither a string nor a collection. -/
def readScalar (cs : List Char) : Except Failure (Value × List Char) :=
  match words.findSome? fun (word, v) => (after? word cs).map fun rest => (v, rest) with
  | some step => .ok step
  | none =>
    match cs with
    | '-' :: cs => readNumeral true cs
    | _ => readNumeral false cs

/-- The greatest number of arrays and objects inside each other. -/
def maxDepth : Nat := 984

mutual

/-- The value at the front, which has some depth left. Every nested value is at least one character
shorter. -/
def readValue (depth : Nat) : Nat → List Char → Except Failure (Value × List Char)
  | 0, _ => .error .malformedJson
  | fuel + 1, cs =>
    match cs with
    | '"' :: cs =>
      (readChars (cs.length + 1) cs).map fun (chars, rest) => (.text (String.ofList chars), rest)
    | '[' :: cs =>
      match depth, skip cs with
      -- The depth is looked at before the items, even for an array without any.
      | 0, _ => .error (.nestedTooDeep "array")
      | _ + 1, ']' :: rest => .ok (.list [], rest)
      | depth + 1, cs =>
        (readItems depth fuel cs).map fun (items, rest) => (.list items, rest)
    | '\x7b' :: cs =>
      match depth, skip cs with
      | 0, _ => .error (.nestedTooDeep "object")
      | _ + 1, '\x7d' :: rest => .ok (.dict [], rest)
      | depth + 1, cs =>
        (readEntries depth fuel cs).map fun (es, rest) => (.dict (Entries.ofPairs es), rest)
    | cs => readScalar cs

/-- The items of an array up to its closing bracket. -/
def readItems (depth : Nat) : Nat → List Char → Except Failure (List Value × List Char)
  | 0, _ => .error .malformedJson
  | fuel + 1, cs => do
    let (item, rest) ← readValue depth fuel cs
    match skip rest with
    | ']' :: rest => .ok ([item], rest)
    | ',' :: rest =>
      (readItems depth fuel (skip rest)).map fun (items, rest) => (item :: items, rest)
    | _ => .error .malformedJson

/-- The entries of an object up to its closing brace. -/
def readEntries (depth : Nat) :
    Nat → List Char → Except Failure (List (Value × Value) × List Char)
  | 0, _ => .error .malformedJson
  | fuel + 1, cs =>
    match cs with
    | '"' :: cs => do
      let (key, rest) ← readChars (cs.length + 1) cs
      match skip rest with
      | ':' :: rest => do
        let (value, rest) ← readValue depth fuel (skip rest)
        let entry := (Value.text (String.ofList key), value)
        match skip rest with
        | '\x7d' :: rest => .ok ([entry], rest)
        | ',' :: rest =>
          (readEntries depth fuel (skip rest)).map fun (es, rest) => (entry :: es, rest)
        | _ => .error .malformedJson
      | _ => .error .malformedJson
    | _ => .error .malformedJson

end

/-- The value of a JSON text. -/
def read (text : String) : Except Failure Value := do
  let cs := text.toList
  let (v, rest) ← readValue maxDepth (2 * cs.length + 2) (skip cs)
  if (skip rest).isEmpty then .ok v else .error .malformedJson

end ObjectStore.Json
