import ObjectStore.Yaml.Spot

/-! # Plain scalars

A plain scalar is a sequence of words with gaps between them. A word ends before a blank, a line
end, a colon that a gap follows and, inside brackets, before an indicator. A gap of spaces stays as
it is, one with line ends reads as `Spot.folded` says. The scalar ends before a comment and, outside
brackets, before a line that is not indented deeper than the block around it.

* `Plain.canStart`: whether a plain scalar starts here.
* `Plain.read`: the text of a plain scalar, and the rest. -/

namespace ObjectStore.Yaml.Plain

/-- Whether a character structures a text inside brackets. -/
def isFlowIndicator (c : Char) : Bool := ",[]\x7b\x7d".toList.contains c

/-- Whether a character has a meaning of its own at the start of a scalar. -/
def isIndicator (c : Char) : Bool := "-?:,[]\x7b\x7d#&*!|>'\"%@\x60".toList.contains c

/-- Whether a plain scalar starts here: with no indicator, or with one that a gap does not follow
and that is a hyphen or, outside brackets, a question mark or a colon. -/
def canStart (inBrackets : Bool) : List Spot → Bool
  | [] => false
  | c :: rest =>
    !(isGap c.char || isIndicator c.char) ||
      (!Spot.endsAt isGap rest &&
        (c.char == '-' || (!inBrackets && (c.char == '?' || c.char == ':'))))

/-- Whether a word ends before a character, with what follows it. -/
def endsWord (inBrackets : Bool) (c : Char) (rest : List Spot) : Bool :=
  isGap c ||
    (c == ':' && Spot.endsAt (fun d => isGap d || (inBrackets && isFlowIndicator d)) rest) ||
    (inBrackets && (isFlowIndicator c || c == '?'))

/-- The word at the front, and the rest. -/
def word (inBrackets : Bool) : List Spot → List Char × List Spot
  | [] => ([], [])
  | c :: rest =>
    if endsWord inBrackets c.char rest then ([], c :: rest)
    else
      let (cs, last) := word inBrackets rest
      (c.char :: cs, last)

/-- What stands between two words. -/
structure Gap where
  /-- What the gap reads as; nothing if no further word belongs to the scalar. -/
  text : List Char
  endsLine : Bool
  rest : List Spot

/-- The gap at the front. -/
def gap (s : List Spot) : Gap :=
  let spaces := s.takeWhile fun c => c.char == ' '
  match s.dropWhile fun c => c.char == ' ' with
  | [] => ⟨Spot.chars spaces, false, []⟩
  | next :: rest =>
    if isBreak next.char then
      match Spot.emptyLines (· == ' ') true rest with
      | (some ends, rest) => ⟨Spot.folded next.char ends, true, rest⟩
      | (none, rest) => ⟨[], true, rest⟩
    else ⟨Spot.chars spaces, false, next :: rest⟩

/-- A plain scalar as it was read. -/
structure Scalar where
  text : List Char
  /-- Whether a line ends between the scalar and the rest. -/
  endsLine : Bool
  rest : List Spot

/-- The words at the front with the gaps between them. Words after the first have to start at a
least column. -/
def words (inBrackets : Bool) (least : Nat) : Nat → List Spot → Scalar
  | 0, s => ⟨[], false, s⟩
  | fuel + 1, s =>
    let (cs, rest) := word inBrackets s
    let g := gap rest
    let ends :=
      g.text.isEmpty || Spot.startsWith (· == '#') g.rest ||
        (!inBrackets && Spot.columnOf g.rest < least)
    if ends then ⟨cs, g.endsLine, g.rest⟩
    else
      let more := words inBrackets least fuel g.rest
      if more.text.isEmpty then ⟨cs, g.endsLine, g.rest⟩
      else ⟨cs ++ g.text ++ more.text, more.endsLine, more.rest⟩

/-- The plain scalar at the front. -/
def read (inBrackets : Bool) (least : Nat) (s : List Spot) : Scalar :=
  words inBrackets least (s.length + 1) s

end ObjectStore.Yaml.Plain
