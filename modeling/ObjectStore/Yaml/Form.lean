import ObjectStore.Number.Reader
import ObjectStore.Yaml.Kind
import ObjectStore.Yaml.Timestamp

/-! # Forms of plain scalars

A plain scalar is a text unless it has the form of nothing, a truth value, a number or a point in
time. Whole numbers may be binary, octal, hexadecimal or in sixties; a double needs a point, may be
in sixties too, and its exponent needs a sign. Underscores may stand between digits. Two signs mean
something as keys. A line feed at the end does not count.

* `Kind.ofForm`: the kind that the form of a plain scalar shows. -/

namespace ObjectStore.Yaml

namespace Form

/-- The forms of nothing. -/
def nullWords : List String := ["", "~", "null", "Null", "NULL"]

/-- The forms of the truth values. -/
def truthWords : List String :=
  ["yes", "Yes", "YES", "no", "No", "NO", "true", "True", "TRUE", "false", "False", "FALSE", "on",
   "On", "ON", "off", "Off", "OFF"]

/-- The forms of infinity without its sign. -/
def infinityWords : List String := [".inf", ".Inf", ".INF"]

/-- The forms of not-a-number. -/
def nanWords : List String := [".nan", ".NaN", ".NAN"]

/-- The sign of a key whose value is taken over. -/
def mergeSign : String := "<<"

/-- The sign of a key whose value stands for the mapping. -/
def valueSign : String := "="

/-- Whether a text is not empty and has only digits of a base and underscores. -/
def isDigits (base : Nat) (cs : List Char) : Bool :=
  !cs.isEmpty && cs.all fun c => (Text.digitValue? base c).isSome || c == '_'

/-- Whether a text begins with a digit and goes on with digits and underscores. -/
def isNumeral (cs : List Char) : Bool :=
  (cs.head?.map Char.isDigit).getD false && isDigits 10 cs

/-- A text cut at its colons. -/
def colonParts (cs : List Char) : List (List Char) :=
  cs.foldr (fun c parts =>
    match parts with
    | [] => [[c]]
    | part :: later => if c == ':' then [] :: part :: later else (c :: part) :: later) [[]]

/-- Whether a text is a sixtieth: one or two digits, the first of two below six. -/
def isSixtieth : List Char → Bool
  | [a] => a.isDigit
  | [a, b] => '0' ≤ a && a ≤ '5' && b.isDigit
  | _ => false

/-- Whether a text is a numeral, maybe with sixtieths after it. -/
def isInSixties (cs : List Char) : Bool :=
  match colonParts cs with
  | [] => false
  | first :: later => isNumeral first && later.all isSixtieth

/-- Whether a text without sign has the form of a whole number. -/
def isWhole : List Char → Bool
  | ['0'] => true
  | '0' :: 'b' :: ds => isDigits 2 ds
  | '0' :: 'x' :: ds => isDigits 16 ds
  | '0' :: ds => isDigits 8 ds
  | cs => isInSixties cs

/-- A text at its first point: what is before and what is after it. -/
def cutPoint? (cs : List Char) : Option (List Char × List Char) :=
  match cs.dropWhile (· != '.') with
  | [] => none
  | _ :: after => some (cs.takeWhile (· != '.'), after)

/-- Whether a text has only digits and underscores. -/
def isPlaces (cs : List Char) : Bool := cs.all fun c => c.isDigit || c == '_'

/-- Whether a text is an exponent, or nothing: a letter, a sign, digits. -/
def isExponent : List Char → Bool
  | [] => true
  | e :: s :: ds =>
    (e == 'e' || e == 'E') && (s == '+' || s == '-') && !ds.isEmpty && ds.all Char.isDigit
  | _ => false

/-- Whether a text is digits and underscores, and maybe an exponent. -/
def isFraction (cs : List Char) : Bool :=
  isExponent (cs.dropWhile fun c => c.isDigit || c == '_')

/-- Whether a text without sign has the form of a double: infinity, or digits, a point and maybe
digits and an exponent, or a number in sixties and a point. Only without a sign may the digits
before the point be missing, and digits follow it then. -/
def isDouble (hasSign : Bool) (cs : List Char) : Bool :=
  infinityWords.contains (String.ofList cs) ||
    match cutPoint? cs with
    | none => false
    | some (whole, fraction) =>
      if whole.isEmpty then
        !hasSign && (fraction.head?.any Char.isDigit) && isFraction fraction
      else if isNumeral whole then isFraction fraction
      else isInSixties whole && isPlaces fraction

/-- A text without a line feed at its end; a line feed alone stays. -/
def withoutLineFeed (cs : List Char) : List Char :=
  match cs.reverse with
  | '\n' :: c :: before => (c :: before).reverse
  | _ => cs

end Form

open Form

/-- The kind that the form of a plain scalar shows. -/
def Kind.ofForm (text : String) : Kind :=
  let cs := withoutLineFeed text.toList
  let s := String.ofList cs
  let (_, rest) := Double.takeSign cs
  if truthWords.contains s then .bool
  else if nanWords.contains s || isDouble (rest.length < cs.length) rest then .float
  else if isWhole rest then .int
  else if s == mergeSign then .merge
  else if nullWords.contains s then .null
  else if Timestamp.isImplicit cs then .timestamp
  else if s == valueSign then .value
  else .str

end ObjectStore.Yaml
