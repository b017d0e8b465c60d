import ObjectStore.Text.Digits
import ObjectStore.Text.Printable

/-! # Quoted text

The quoted form in which messages show a text or a run of bytes: single quotes unless the text has
a single quote and no double one; backslashes, the quote in use and characters that are not
printable are escaped. -/

namespace ObjectStore.Text

/-- The quote that encloses a text: the single one, unless it occurs and the double one does not. -/
def quoteMark (cs : List Char) : Char :=
  if cs.contains '\'' && !cs.contains '"' then '"' else '\''

/-- A character by the hexadecimal digits of its number, of which there are as few as will do. -/
def numberedChar (c : Char) : List Char :=
  if c.toNat < 0x100 then '\\' :: 'x' :: hexDigits 2 c.toNat
  else if c.toNat < 0x10000 then '\\' :: 'u' :: hexDigits 4 c.toNat
  else '\\' :: 'U' :: hexDigits 8 c.toNat

/-- A text in which characters beyond ASCII stand by their numbers. -/
def asciiChars (cs : List Char) : List Char :=
  cs.flatMap fun c => if c.toNat < 0x80 then [c] else numberedChar c

/-- A character inside quotes. -/
def quotedChar (mark c : Char) : List Char :=
  if c == mark || c == '\\' then ['\\', c]
  else if c == '\n' then ['\\', 'n']
  else if c == '\r' then ['\\', 'r']
  else if c == '\t' then ['\\', 't']
  else if isPrintable c then [c]
  else numberedChar c

/-- The quoted form of a text. -/
def quoted (text : String) : String :=
  let mark := quoteMark text.toList
  String.ofList (mark :: text.toList.flatMap (quotedChar mark) ++ [mark])

/-- A byte inside quotes: ASCII as in a text, the rest by hexadecimal digits. -/
def quotedByte (mark : Char) (b : UInt8) : List Char :=
  if b.toNat < 0x80 then quotedChar mark (Char.ofNat b.toNat)
  else '\\' :: 'x' :: hexDigits 2 b.toNat

/-- The quoted form of a run of bytes. -/
def quotedBytes (bytes : List UInt8) : String :=
  let mark := quoteMark (bytes.map fun b => Char.ofNat b.toNat)
  String.ofList ('b' :: mark :: bytes.flatMap (quotedByte mark) ++ [mark])

end ObjectStore.Text
