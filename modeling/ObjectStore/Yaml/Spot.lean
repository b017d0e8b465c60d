import ObjectStore.Failure.Basic

/-! # Places in a text

Indentation and the length of keys depend on where characters stand, so a text is read as a
sequence of characters with their places. A line ends with a line feed, a next-line character or a
separator of lines or paragraphs.

* `Spot.ofText`: the characters of a text with their places, if each of them may occur.
* `Spot.emptyLines`, `Spot.folded`: how the end of a line inside a scalar reads. -/

namespace ObjectStore.Yaml

/-- A text that is not well formed. -/
def malformed {α : Type} : Except Failure α := .error .malformedYaml

/-- A character of a text and where it stands: how many characters, how many lines and how many
characters of its line are before it. -/
structure Spot where
  char : Char
  index : Nat
  line : Nat
  column : Nat
deriving Repr

/-- Whether a character ends a line. -/
def isBreak (c : Char) : Bool := c == '\n' || c == '\x85' || c == '\u2028' || c == '\u2029'

/-- Whether a character is a space or a tab. -/
def isBlank (c : Char) : Bool := c == ' ' || c == '\t'

/-- Whether a character is blank or ends a line. -/
def isGap (c : Char) : Bool := isBlank c || isBreak c

/-- The mark that may stand in front of a text; it takes no column. -/
def byteOrderMark : Char := '\uFEFF'

/-- Whether a character may occur in a text: no control characters besides tab, line ends and
next-line, and none of the last two of the basic plane. -/
def mayOccur (c : Char) : Bool :=
  let n := c.toNat
  isGap c || c == '\r' || (0x20 ≤ n && n ≤ 0x7E) || (0xA0 ≤ n && n ≤ 0xFFFD) || 0x10000 ≤ n

/-- A text in which a line feed stands for each carriage return and for each pair of both. -/
def unifyLineEnds : List Char → List Char
  | [] => []
  | '\r' :: '\n' :: cs => '\n' :: unifyLineEnds cs
  | '\r' :: cs => '\n' :: unifyLineEnds cs
  | c :: cs => c :: unifyLineEnds cs

namespace Spot

/-- The characters of a text with their places, the first of which is given. -/
def placed (index line column : Nat) : List Char → List Spot
  | [] => []
  | c :: cs =>
    ⟨c, index, line, column⟩ ::
      if isBreak c then placed (index + 1) (line + 1) 0 cs
      else placed (index + 1) line (if c == byteOrderMark then column else column + 1) cs

/-- The characters of a text with their places; a byte order mark in front is left out. -/
def ofText (text : String) : Except Failure (List Spot) :=
  let cs := unifyLineEnds text.toList
  if cs.all mayOccur then
    .ok (placed 0 0 0 (if cs.head? == some byteOrderMark then cs.drop 1 else cs))
  else malformed

/-- Whether a text goes on with a character of a class. -/
def startsWith (p : Char → Bool) (s : List Spot) : Bool := s.head?.any fun c => p c.char

/-- Whether a text is at its end or goes on with a character of a class. -/
def endsAt (p : Char → Bool) (s : List Spot) : Bool := s.head?.all fun c => p c.char

/-- The column of the first character. -/
def columnOf (s : List Spot) : Nat := (s.head?.map Spot.column).getD 0

/-- The characters without their places. -/
def chars (s : List Spot) : List Char := s.map Spot.char

/-- `chars (placed index line column cs) = cs`: giving characters their places does not change
them. -/
@[simp] theorem chars_placed (index line column : Nat) (cs : List Char) :
    chars (placed index line column cs) = cs := by
  induction cs generalizing index line column with
  | nil => rfl
  | cons c cs ih =>
    by_cases h : isBreak c
    · simpa [placed, chars, h] using ih (index + 1) (line + 1) 0
    · simpa [placed, chars, h] using ih _ _ _

/-- Whether three of a character stand at the front, and nothing else before a gap. -/
def isMark (c : Char) : List Spot → Bool
  | x :: y :: z :: rest => x.char == c && y.char == c && z.char == c && endsAt isGap rest
  | _ => false

/-- Whether a line starts or ends a document. -/
def isDocumentMark (s : List Spot) : Bool := isMark '-' s || isMark '.' s

/-- The line end that a scalar keeps of one in its text. -/
def lineEnd (c : Char) : Char := if c == '\x85' then '\n' else c

/-- The ends of the empty lines in front, where some characters do not count, and the rest. There
are none before the mark of a document. The flag says that a line starts. -/
def emptyLines (skipped : Char → Bool) (starts : Bool) (s : List Spot) :
    Option (List Char) × List Spot :=
  if starts && isDocumentMark s then (none, s)
  else
    match s with
    | [] => (some [], [])
    | c :: rest =>
      if skipped c.char then emptyLines skipped false rest
      else if isBreak c.char then
        let (ends?, last) := emptyLines skipped true rest
        (ends?.map (lineEnd c.char :: ·), last)
      else (some [], c :: rest)

/-- What a line end and the empty lines after it read as inside a scalar: a single line feed is a
space, and the one before empty lines nothing. -/
def folded (first : Char) (ends : List Char) : List Char :=
  if lineEnd first != '\n' then first :: ends else if ends.isEmpty then [' '] else ends

/-- What follows a line of which only spaces and a comment are left. -/
def nextLine (s : List Spot) : Except Failure (List Spot) :=
  let rest := s.dropWhile fun c => c.char == ' '
  let rest := if startsWith (· == '#') rest then rest.dropWhile fun c => !isBreak c.char else rest
  if endsAt isBreak rest then .ok (rest.drop 1) else malformed

end Spot

end ObjectStore.Yaml
