import ObjectStore.Yaml.Token

/-! # Layout

How indentation and colons shape a document. Outside brackets a list or a mapping is a block: it
begins with its first item or key, at a column deeper than the block around it, and ends before the
first token at a lesser column. What stands before a colon is a key, however it was read, if it
began where a key may and on the same line, not more than 1024 characters back.

* `Layout.next`: reads one token. `Layout.tokens`: the tokens of a text. -/

namespace ObjectStore.Yaml

/-- A token that is a key if a colon follows. -/
structure PossibleKey where
  /-- How many tokens are before it. -/
  position : Nat
  /-- Whether a colon has to follow, since nothing else can stand at this column. -/
  needed : Bool
  start : Spot

/-- How far a text has been read. -/
structure Layout where
  rest : List Spot
  /-- The tokens read, the last first. -/
  found : List Token
  /-- The columns of the open blocks, the innermost first. -/
  columns : List Nat
  /-- Whether a key may begin here. -/
  keyAllowed : Bool
  /-- The possible key outside brackets, or inside the innermost ones. -/
  key? : Option PossibleKey
  /-- The possible key that each open bracket belongs to, and those around it, the innermost
  first. -/
  outer : List (Option PossibleKey)

namespace Layout

/-- The state in which a text is begun. -/
def start (s : List Spot) : Layout := ⟨s, [], [], true, none, []⟩

/-- Whether brackets are open. -/
def inBrackets (l : Layout) : Bool := !l.outer.isEmpty

/-- The least column of what belongs to the innermost block. -/
def least (l : Layout) : Nat := (l.columns.head?.map (· + 1)).getD 0

/-- A token more, and the rest after it. -/
def push (l : Layout) (t : Token) (rest : List Spot) : Layout :=
  { l with rest, found := t :: l.found }

/-- A block begun at a column, unless the innermost is there already. -/
def openBlock (l : Layout) (t : Token) (column : Nat) : Layout :=
  if l.least ≤ column then { l with found := t :: l.found, columns := column :: l.columns } else l

/-- The open blocks without those at columns of a class, which end here. -/
def closeBlocks (l : Layout) (closes : Nat → Bool) : Layout :=
  let closed := l.columns.takeWhile closes
  { l with
    found := closed.map (fun _ => Token.blockEnd) ++ l.found
    columns := l.columns.dropWhile closes }

/-- A possible key given up; one that a colon has to follow cannot be. -/
def abandon : Option PossibleKey → Except Failure (Option PossibleKey)
  | none => .ok none
  | some k => if k.needed then malformed else .ok none

/-- The possible key given up. -/
def forget (l : Layout) : Except Failure Layout :=
  (abandon l.key?).map fun key? => { l with key? }

/-- A possible key as seen from a place: given up if the place is on another line or too far. -/
def expired (c : Spot) (key? : Option PossibleKey) : Except Failure (Option PossibleKey) :=
  match key? with
  | none => .ok none
  | some k =>
    if k.start.line ≠ c.line ∨ k.start.index + 1024 < c.index then abandon key? else .ok key?

/-- The possible keys without those given up before a place. -/
def expire (l : Layout) (c : Spot) : Except Failure Layout := do
  let key? ← expired c l.key?
  let outer ← l.outer.mapM (expired c)
  .ok { l with key?, outer }

/-- Notes that the token at a place may be a key. -/
def noteKey (l : Layout) (c : Spot) : Except Failure Layout :=
  if l.keyAllowed then do
    let l ← l.forget
    let needed := !l.inBrackets && l.columns.head? == some c.column
    .ok { l with key? := some ⟨l.found.length, needed, c⟩ }
  else .ok l

/-- What stands between documents: the start or the end of one, or a directive. -/
def mark (l : Layout) (t : Token) (rest : List Spot) : Except Failure Layout := do
  let l := if l.inBrackets then l else l.closeBlocks fun _ => true
  let l ← l.forget
  .ok ({ l with keyAllowed := false }.push t rest)

/-- An opening bracket, which may begin a key. -/
def openBracket (l : Layout) (c : Spot) (t : Token) (rest : List Spot) : Except Failure Layout := do
  let l ← l.noteKey c
  .ok ({ l with keyAllowed := true, key? := none, outer := l.key? :: l.outer }.push t rest)

/-- A closing bracket. -/
def closeBracket (l : Layout) (t : Token) (rest : List Spot) : Except Failure Layout := do
  let l ← l.forget
  match l.outer with
  | [] => malformed
  | key? :: outer => .ok ({ l with keyAllowed := false, key?, outer }.push t rest)

/-- A comma. -/
def comma (l : Layout) (rest : List Spot) : Except Failure Layout := do
  let l ← l.forget
  .ok ({ l with keyAllowed := true }.push .comma rest)

/-- A hyphen, which outside brackets may begin a list. -/
def item (l : Layout) (column : Nat) (rest : List Spot) : Except Failure Layout := do
  if !l.inBrackets && !l.keyAllowed then malformed
  else
    let l := if l.inBrackets then l else l.openBlock .blockList column
    let l ← l.forget
    .ok ({ l with keyAllowed := true }.push .item rest)

/-- A question mark, which outside brackets may begin a mapping. -/
def questionMark (l : Layout) (column : Nat) (rest : List Spot) : Except Failure Layout := do
  if !l.inBrackets && !l.keyAllowed then malformed
  else
    let l := if l.inBrackets then l else l.openBlock .blockMap column
    let l ← l.forget
    .ok ({ l with keyAllowed := !l.inBrackets }.push .key rest)

/-- The possible key made a key; outside brackets it may begin a mapping. -/
def insertKey (l : Layout) (k : PossibleKey) : Layout :=
  let count := l.found.length - k.position
  let before := l.found.drop count
  let opened :=
    if l.inBrackets then { l with found := before }
    else { l with found := before }.openBlock .blockMap k.start.column
  { opened with found := l.found.take count ++ .key :: opened.found, key? := none }

/-- A colon, which makes a possible key one. -/
def colon (l : Layout) (column : Nat) (rest : List Spot) : Except Failure Layout :=
  match l.key? with
  | some k => .ok ({ l.insertKey k with keyAllowed := false }.push .value rest)
  | none =>
    if l.inBrackets then .ok ({ l with keyAllowed := false }.push .value rest)
    else if l.keyAllowed then .ok ((l.openBlock .blockMap column).push .value rest)
    else malformed

/-- A token that may be a key. -/
def keyToken (l : Layout) (c : Spot) (t : Token) (rest : List Spot) : Except Failure Layout := do
  let l ← l.noteKey c
  .ok ({ l with keyAllowed := false }.push t rest)

/-- An indented text, after which a key may begin. -/
def blockText (l : Layout) (folds : Bool) (rest : List Spot) : Except Failure Layout := do
  let l ← l.forget
  let (text, rest) ← BlockText.read folds l.least rest
  .ok ({ l with keyAllowed := true }.push (.scalar false text) rest)

/-- A quoted scalar. -/
def quoted (l : Layout) (c : Spot) (rest : List Spot) : Except Failure Layout := do
  let (text, rest) ← Quoted.read (c.char == '"') rest
  l.keyToken c (.scalar false text) rest

/-- A plain scalar; if a line ends after it a key may begin. -/
def plain (l : Layout) (c : Spot) (rest : List Spot) : Except Failure Layout := do
  let scalar := Plain.read l.inBrackets l.least (c :: rest)
  let l ← l.keyToken c (.scalar true (String.ofList scalar.text)) scalar.rest
  .ok { l with keyAllowed := scalar.endsLine }

/-- An alias or an anchor. -/
def name (l : Layout) (c : Spot) (rest : List Spot) : Except Failure Layout := do
  let (name, rest) ← Token.takeName rest
  l.keyToken c (if c.char == '*' then .reference name else .anchor name) rest

/-- A tag. -/
def tag (l : Layout) (c : Spot) (rest : List Spot) : Except Failure Layout := do
  let (t, rest) ← Token.takeTag rest
  l.keyToken c t rest

/-- A directive. -/
def directive (l : Layout) (rest : List Spot) : Except Failure Layout := do
  let (t, rest) ← Token.takeDirective rest
  l.mark t rest

/-- Reads the token that begins with a character. -/
def next (l : Layout) (c : Spot) (rest : List Spot) : Except Failure Layout :=
  let gapFollows := Spot.endsAt isGap rest
  -- The order of the tests decides: a mark in the first column is one before it is anything else.
  if c.column == 0 && c.char == '%' then l.directive rest
  else if c.column == 0 && Spot.isMark '-' (c :: rest) then l.mark .documentStart (rest.drop 2)
  else if c.column == 0 && Spot.isMark '.' (c :: rest) then l.mark .documentEnd (rest.drop 2)
  else if c.char == '[' then l.openBracket c .openList rest
  else if c.char == '\x7b' then l.openBracket c .openMap rest
  else if c.char == ']' then l.closeBracket .closeList rest
  else if c.char == '\x7d' then l.closeBracket .closeMap rest
  else if c.char == ',' then l.comma rest
  else if c.char == '-' && gapFollows then l.item c.column rest
  else if c.char == '?' && (l.inBrackets || gapFollows) then l.questionMark c.column rest
  else if c.char == ':' && (l.inBrackets || gapFollows) then l.colon c.column rest
  else if c.char == '*' || c.char == '&' then l.name c rest
  else if c.char == '!' then l.tag c rest
  else if (c.char == '|' || c.char == '>') && !l.inBrackets then l.blockText (c.char == '>') rest
  else if c.char == '\'' || c.char == '"' then l.quoted c rest
  else if Plain.canStart l.inBrackets (c :: rest) then l.plain c rest
  else malformed

/-- What follows the spaces, line ends and comments in front, and whether a line ends before it. The
flag says that a comment goes on. -/
def skipGap (inComment : Bool) : List Spot → Bool × List Spot
  | [] => (false, [])
  | c :: rest =>
    if isBreak c.char then (true, (skipGap false rest).2)
    else if inComment || c.char == ' ' then skipGap inComment rest
    else if c.char == '#' then skipGap true rest
    else (false, c :: rest)

/-- The tokens at the end of a text. -/
def finish (l : Layout) : Except Failure (List Token) := do
  let l ← l.forget
  .ok (l.closeBlocks fun _ => true).found.reverse

/-- The tokens of a text that has been read so far. -/
def run : Nat → Layout → Except Failure (List Token)
  | 0, _ => malformed
  | fuel + 1, l =>
    let (endsLine, rest) := skipGap false l.rest
    let l := { l with keyAllowed := l.keyAllowed || (endsLine && !l.inBrackets) }
    match rest with
    | [] => l.finish
    | c :: rest => do
      let l ← l.expire c
      let l := if l.inBrackets then l else l.closeBlocks (c.column < ·)
      let l ← l.next c rest
      run fuel l

/-- The tokens of a text. -/
def tokens (s : List Spot) : Except Failure (List Token) := run (s.length + 1) (start s)

end Layout

end ObjectStore.Yaml
