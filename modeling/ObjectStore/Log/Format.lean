import ObjectStore.Failure.Basic
import ObjectStore.Log.Level

/-! # Formats of log lines

A format is a text in which directives stand for the parts of a record. A directive names a part
between round brackets, after a percent sign; flags, a width and a precision may follow, and a
letter says how the part is written. A format without any directive is refused; one with a directive
that cannot be carried out is not, but writes no lines.

* `FormatPiece.parse`: the pieces of a format.
* `LogFormat.ofText`: the format of a text. `LogFormat.render`: a record as a line. -/

namespace ObjectStore

/-- What a log line is made from. -/
structure LogLine where
  level : Int
  logger : String
  message : String
deriving DecidableEq, Repr

/-- A part of a record. -/
inductive LogPart
  /-- The time of the record, which is left out. -/
  | time
  | level
  | levelNumber
  | logger
  | message
deriving DecidableEq, Repr

namespace LogPart

/-- The parts by name. -/
def names : List (String × LogPart) :=
  [("asctime", time), ("levelname", level), ("levelno", levelNumber), ("name", logger),
   ("message", message), ("msg", message)]

/-- The name of a level's number. -/
def levelName (n : Int) : String :=
  match Level.all.find? fun l => l.number == n with
  | some l => l.name
  | none => if n = 0 then "NOTSET" else "Level " ++ toString n

/-- A part as a value. -/
def value (line : LogLine) : LogPart → Value
  | time => .text ""
  | level => .text (levelName line.level)
  | levelNumber => .int line.level
  | logger => .text line.logger
  | message => .text line.message

end LogPart

/-- How a directive writes its part. -/
inductive Conversion
  | written
  | shown
  /-- As shown, with the characters beyond ASCII by their numbers. -/
  | ascii
  /-- A whole number in decimal digits. -/
  | decimal
deriving DecidableEq, Repr

/-- A directive of a format. -/
structure Directive where
  part : LogPart
  flags : List Char
  /-- The least number of characters. -/
  width : Nat
  /-- The greatest number of characters, or the least number of digits. -/
  precision : Option Nat
  conversion : Conversion
deriving DecidableEq, Repr

namespace Directive

/-- A text with a character before or after it up to the least number of characters. -/
def padded (d : Directive) (filler : Char) (cs : List Char) : List Char :=
  let filling := List.replicate (d.width - cs.length) filler
  if d.flags.contains '-' then cs ++ filling.map (fun _ => ' ') else filling ++ cs

/-- A text as the directive writes it. -/
def ofText (d : Directive) (cs : List Char) : List Char :=
  d.padded ' ' (cs.take (d.precision.getD cs.length))

/-- A whole number as the directive writes it: zeros as fillers stand after the sign. -/
def ofInt (d : Directive) (n : Int) : List Char :=
  let sign :=
    if n < 0 then ['-']
    else if d.flags.contains '+' then ['+']
    else if d.flags.contains ' ' then [' ']
    else []
  let digits := (toString n.natAbs).toList
  let digits := List.replicate ((d.precision.getD 0) - digits.length) '0' ++ digits
  if d.flags.contains '0' && !d.flags.contains '-' then
    sign ++ List.replicate (d.width - sign.length - digits.length) '0' ++ digits
  else d.padded ' ' (sign ++ digits)

/-- What the directive becomes in a line; only a number is written as one. -/
def render? (d : Directive) (line : LogLine) : Option (List Char) :=
  match d.conversion, d.part.value line with
  | .written, v => some (d.ofText v.written.toList)
  | .shown, v => some (d.ofText v.shown.toList)
  | .ascii, v => some (d.ofText (Text.asciiChars v.shown.toList))
  | .decimal, .int n => some (d.ofInt n)
  | .decimal, _ => none

end Directive

/-- A piece of a format. -/
inductive FormatPiece
  | plain (c : Char)
  | directive (d : Directive)
  /-- A directive that cannot be carried out. -/
  | unusable
deriving DecidableEq, Repr

namespace FormatPiece

/-- Whether a character is a flag. -/
def isFlag (c : Char) : Bool := "-+ #0".toList.contains c

/-- The name in front, up to the bracket that closes it, and the rest; brackets inside come in
pairs, of which some are open. -/
def takeName? : Nat → List Char → Option (List Char × List Char)
  | _, [] => none
  | depth, c :: cs =>
    if c == ')' then
      match depth with
      | 0 => some ([], cs)
      | inner + 1 => (takeName? inner cs).map fun (name, rest) => (c :: name, rest)
    else
      (takeName? (if c == '(' then depth + 1 else depth) cs).map fun (name, rest) =>
        (c :: name, rest)

/-- How a letter says that a part is written. -/
def conversion? (c : Char) : Option Conversion :=
  if c == 's' then some .written
  else if c == 'r' then some .shown
  else if c == 'a' then some .ascii
  else if c == 'd' || c == 'i' || c == 'u' then some .decimal
  else none

/-- The precision in front, if a point stands there, and the rest. -/
def takePrecision : List Char → Option Nat × List Char
  | '.' :: cs =>
    (some (Text.decimalNat (cs.takeWhile Char.isDigit)), cs.dropWhile Char.isDigit)
  | cs => (none, cs)

/-- The directive in front, after its percent sign, and the rest. Nothing follows one that ends too
early. -/
def takeDirective (cs : List Char) : FormatPiece × List Char :=
  let (part?, cs) :=
    match cs with
    | '(' :: cs =>
      match takeName? 0 cs with
      | some (name, rest) => (LogPart.names.lookup (String.ofList name), rest)
      | none => (none, [])
    | cs => (none, cs)
  let flags := cs.takeWhile isFlag
  let cs := cs.drop flags.length
  let width := cs.takeWhile Char.isDigit
  let (precision, cs) := takePrecision (cs.drop width.length)
  -- A letter for the length of a number may be there, and says nothing.
  let cs := if "hlL".toList.any fun c => cs.head? == some c then cs.drop 1 else cs
  match cs with
  | [] => (unusable, [])
  | c :: rest =>
    match part?, conversion? c with
    | some part, some conversion =>
      (directive ⟨part, flags, Text.decimalNat width, precision, conversion⟩, rest)
    | _, _ => (unusable, rest)

/-- The pieces of a format, in which two percent signs in a row stand for one. The fuel bounds
their number. -/
def parse : Nat → List Char → List FormatPiece
  | 0, _ => []
  | _, [] => []
  | fuel + 1, '%' :: '%' :: cs => plain '%' :: parse fuel cs
  | fuel + 1, '%' :: cs =>
    let (piece, rest) := takeDirective cs
    piece :: parse fuel rest
  | fuel + 1, c :: cs => plain c :: parse fuel cs

/-- What a piece becomes in a line. -/
def render? (line : LogLine) : FormatPiece → Option (List Char)
  | plain c => some [c]
  | directive d => d.render? line
  | unusable => none

end FormatPiece

/-- How a logger writes its lines. -/
structure LogFormat where
  pieces : List FormatPiece
deriving DecidableEq, Repr

namespace LogFormat

/-- The pieces of a text. -/
def ofPieces (cs : List Char) : LogFormat := ⟨FormatPiece.parse (cs.length + 1) cs⟩

/-- The format in use unless another is asked for. -/
def standard : LogFormat :=
  ofPieces "%(asctime)s - %(name)s - %(levelname)s - %(message)s".toList

/-- Whether a character may stand in the name of a part. -/
def isNameCharacter (c : Char) : Bool := c.isAlphanum || c == '_' || 0x80 ≤ c.toNat

/-- Whether a text goes on with digits or with an asterisk. -/
def dropNumber : List Char → List Char
  | '*' :: cs => cs
  | cs => cs.dropWhile Char.isDigit

/-- A text without the point and the number in front, if both are there. -/
def dropPrecision (cs : List Char) : List Char :=
  match cs with
  | '.' :: rest =>
    let after := dropNumber rest
    if after.length < rest.length then after else cs
  | _ => cs

/-- Whether a text begins with something that has the form of a directive. -/
def startsDirective : List Char → Bool
  | '%' :: '(' :: cs =>
    let name := cs.takeWhile isNameCharacter
    match cs.drop name.length with
    | ')' :: rest =>
      let rest := dropPrecision (dropNumber (rest.dropWhile FormatPiece.isFlag))
      !name.isEmpty &&
        rest.head?.any fun c => "diouxefgcrsa%DIOUXEFGCRSA".toList.contains c
    | _ => false
  | _ => false

/-- Whether something that has the form of a directive occurs in a text. -/
def hasDirective : List Char → Bool
  | [] => false
  | c :: cs => startsDirective (c :: cs) || hasDirective cs

/-- The format of a text. -/
def ofText (text : String) : Except Failure LogFormat :=
  if hasDirective text.toList then .ok (ofPieces text.toList)
  else
    .error (.badValue (.given
      (.text ("Invalid format '" ++ text ++ "' for '%' style"))))

/-- The format of an optional text; an empty one is as good as none. -/
def ofOptional : Option String → Except Failure LogFormat
  | none => .ok standard
  | some text => if text.isEmpty then .ok standard else ofText text

/-- A record as a line; nothing if one of the pieces is unusable. -/
def render (f : LogFormat) (line : LogLine) : String :=
  match f.pieces.mapM (FormatPiece.render? line) with
  | some pieces => String.ofList (pieces.flatten ++ ['\n'])
  | none => ""

end LogFormat

end ObjectStore
