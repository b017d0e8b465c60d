import ObjectStore.Yaml.Spot

/-! # Indented texts

A text in lines of its own follows a header: a bar keeps its line ends, an angle folds them into
spaces between lines that do not start with a blank. A sign says whether the line ends at the end of
the text are kept or dropped; without one, one is kept. A digit gives the indentation; without one,
the first line that is not empty does.

* `BlockText.read`: the text after its bar or angle, and the rest. -/

namespace ObjectStore.Yaml.BlockText

/-- What becomes of the line ends at the end of a text. -/
inductive Tail
  | strip
  | clip
  | keep
deriving DecidableEq, Repr

/-- What a header says. -/
structure Header where
  tail : Tail
  /-- How much deeper the text is indented than the block around it. -/
  indentation : Option Nat

/-- The sign at the front, if there is one. -/
def takeTail : List Spot → Tail × List Spot
  | [] => (.clip, [])
  | c :: rest =>
    if c.char == '+' then (.keep, rest) else if c.char == '-' then (.strip, rest)
    else (.clip, c :: rest)

/-- The digit at the front, if there is one; it must not be zero. -/
def takeIndentation : List Spot → Except Failure (Option Nat × List Spot)
  | [] => .ok (none, [])
  | c :: rest =>
    match Text.decimalValue? c.char with
    | none => .ok (none, c :: rest)
    | some 0 => malformed
    | some n => .ok (some n, rest)

/-- The sign and the digit at the front, in either order. -/
def takeHeader (s : List Spot) : Except Failure (Header × List Spot) := do
  let (tail, rest) := takeTail s
  let (indentation, rest) ← takeIndentation rest
  let (tail, rest) := if tail = .clip then takeTail rest else (tail, rest)
  if Spot.endsAt (fun c => c == ' ' || isBreak c) rest then .ok (⟨tail, indentation⟩, rest)
  else malformed

/-- The ends of the empty lines in front, and the rest; spaces before a column do not count. -/
def emptyLines (column : Nat) : List Spot → List Char × List Spot
  | [] => ([], [])
  | c :: rest =>
    if c.char == ' ' && c.column < column then emptyLines column rest
    else if isBreak c.char then
      let (ends, last) := emptyLines column rest
      (Spot.lineEnd c.char :: ends, last)
    else ([], c :: rest)

/-- The spaces and line ends in front. -/
def margin (s : List Spot) : List Spot := s.takeWhile fun c => c.char == ' ' || isBreak c.char

/-- The line ends of a margin. -/
def lineEnds (margin : List Spot) : List Char :=
  (Spot.chars margin).filterMap fun c => if isBreak c then some (Spot.lineEnd c) else none

/-- How far the spaces of a margin reach. -/
def depth (margin : List Spot) : Nat :=
  margin.foldl (fun n c => if c.char == ' ' then max n (c.column + 1) else n) 0

/-- Whether a line of the text starts here. -/
def startsLine (column : Nat) (s : List Spot) : Bool :=
  !s.isEmpty && Spot.columnOf s == column

/-- What the line end between two lines reads as, with the ends of empty lines after it. -/
def glue (folds : Bool) (line after : List Spot) (lineEnd ends : List Char) : List Char :=
  if folds && lineEnd == ['\n'] && !Spot.startsWith isBlank line && !Spot.startsWith isBlank after
  then if ends.isEmpty then [' '] else []
  else lineEnd

/-- The lines of a text from a column on, after some empty lines, and the rest. -/
def lines (folds : Bool) (tail : Tail) (column : Nat) :
    Nat → List Char → List Spot → List Char × List Spot
  | 0, _, s => ([], s)
  | fuel + 1, ends, s =>
    if startsLine column s then
      let line := s.takeWhile fun c => !isBreak c.char
      let after := s.drop line.length
      let lineEnd := (after.take 1).map fun c => Spot.lineEnd c.char
      let (later, rest) := emptyLines column (after.drop 1)
      if startsLine column rest then
        let (more, last) := lines folds tail column fuel later rest
        (ends ++ Spot.chars line ++ glue folds line rest lineEnd later ++ more, last)
      else
        -- The last line: its end and the empty lines after it are kept as the header says.
        let kept :=
          match tail with
          | .strip => []
          | .clip => lineEnd
          | .keep => lineEnd ++ later
        (ends ++ Spot.chars line ++ kept, rest)
    else (if tail = .keep then ends else [], s)

/-- The text after its bar or angle, and the rest; the least column is that of the block around it
plus one. -/
def read (folds : Bool) (least : Nat) (s : List Spot) : Except Failure (String × List Spot) := do
  let (header, rest) ← takeHeader s
  let rest ← Spot.nextLine rest
  let least := max least 1
  let (column, ends, rest) :=
    match header.indentation with
    | some n =>
      let column := least + n - 1
      let (ends, rest) := emptyLines column rest
      (column, ends, rest)
    | none =>
      let space := margin rest
      (max least (depth space), lineEnds space, rest.drop space.length)
  let (cs, rest) := lines folds header.tail column (rest.length + 1) ends rest
  .ok (String.ofList cs, rest)

end ObjectStore.Yaml.BlockText
