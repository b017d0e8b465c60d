import ObjectStore.Text.Percent
import ObjectStore.Yaml.BlockText
import ObjectStore.Yaml.Kind
import ObjectStore.Yaml.Plain
import ObjectStore.Yaml.Quoted

/-! # Tokens

The smallest parts of a document that mean something. Brackets and indicators stand for themselves;
blocks, which only indentation shows, have tokens for their beginning and their end, and so has a
key, which only the colon after it shows. A tag is written whole, or as a handle and a name; what
the handle stands for, a directive in front of the document may say.

* `Token.takeName`, `Token.takeTag`: the name of an anchor and a tag in front of a text.
* `Token.takeDirective`: a directive in front of a text. -/

namespace ObjectStore.Yaml

/-- A part of a document. -/
inductive Token
  /-- The version of the format that a document needs. -/
  | version (major : Nat)
  /-- What the tags with a handle start with. -/
  | handle (name start : String)
  /-- A directive that says nothing. -/
  | directive
  | documentStart
  | documentEnd
  | blockList
  | blockMap
  | blockEnd
  | openList
  | closeList
  | openMap
  | closeMap
  | comma
  | item
  | key
  | value
  | reference (name : String)
  | anchor (name : String)
  /-- A tag with its handle, or the whole of one. -/
  | tag (handle : Option String) (name : String)
  | scalar (isPlain : Bool) (text : String)
deriving DecidableEq, Repr

namespace Token

/-- Whether a character may occur in a name. -/
def isNameCharacter (c : Char) : Bool := c.isAlphanum || c == '-' || c == '_'

/-- The characters of a name in front, and the rest. -/
def cutName (s : List Spot) : List Char × List Spot :=
  let name := s.takeWhile fun c => isNameCharacter c.char
  (Spot.chars name, s.drop name.length)

/-- Whether the name of an anchor may end before a character. -/
def endsName (c : Char) : Bool := isGap c || "?:,]\x7d%@\x60".toList.contains c

/-- The name of an anchor in front, and the rest. -/
def takeName (s : List Spot) : Except Failure (String × List Spot) :=
  let (name, rest) := cutName s
  if name.isEmpty || !Spot.endsAt endsName rest then malformed
  else .ok (String.ofList name, rest)

/-- Whether a character may occur in a tag. -/
def isTagCharacter (c : Char) : Bool := c.isAlphanum || "-;/?:@&=+$,_.!~*'()[]%".toList.contains c

/-- The name or the start of a tag in front, and the rest. -/
def takeTagText (s : List Spot) : Except Failure (String × List Spot) :=
  let text := s.takeWhile fun c => isTagCharacter c.char
  match Text.Percent.decode? (Spot.chars text) with
  | some name => if text.isEmpty then malformed else .ok (name, s.drop text.length)
  | none => malformed

/-- The handle in front, after its first exclamation mark, and the rest; it ends with another. -/
def takeHandle (s : List Spot) : Except Failure (String × List Spot) :=
  let (name, rest) := cutName s
  if Spot.startsWith (· == '!') rest then .ok (String.ofList ('!' :: name ++ ['!']), rest.drop 1)
  else malformed

/-- Whether a character is a space or ends a line. -/
def endsPart (c : Char) : Bool := c == ' ' || isBreak c

/-- The tag in front, after its exclamation mark, and the rest. -/
def takeTag (s : List Spot) : Except Failure (Token × List Spot) := do
  let (t, rest) ←
    if Spot.startsWith (· == '<') s then do
      let (name, rest) ← takeTagText (s.drop 1)
      if Spot.startsWith (· == '>') rest then .ok (tag none name, rest.drop 1) else malformed
    else if Spot.endsAt isGap s then .ok (tag none Kind.unspecific, s)
    else do
      let word := s.takeWhile fun c => !endsPart c.char
      let (start, rest) ←
        if (Spot.chars word).contains '!' then takeHandle s else .ok ("!", s)
      let (name, rest) ← takeTagText rest
      .ok (tag start name, rest)
  if Spot.endsAt endsPart rest then .ok (t, rest) else malformed

/-- What follows the spaces in front. -/
def skipSpaces (s : List Spot) : List Spot := s.dropWhile fun c => c.char == ' '

/-- The number in front, and the rest. -/
def takeNumber (s : List Spot) : Except Failure (Nat × List Spot) :=
  let digits := s.takeWhile fun c => c.char.isDigit
  if digits.isEmpty then malformed
  else .ok (Text.decimalNat (Spot.chars digits), s.drop digits.length)

/-- The version in front, and the rest: two numbers with a point between them. -/
def takeVersion (s : List Spot) : Except Failure (Token × List Spot) := do
  let (major, rest) ← takeNumber s
  if Spot.startsWith (· == '.') rest then
    let (_, rest) ← takeNumber (rest.drop 1)
    .ok (version major, rest)
  else malformed

/-- The handle in front with the start of its tags, and the rest. -/
def takeHandleStart (s : List Spot) : Except Failure (Token × List Spot) := do
  if Spot.startsWith (· == '!') s then
    let s := s.drop 1
    let (name, rest) ← if Spot.startsWith (· == ' ') s then .ok ("!", s) else takeHandle s
    if Spot.startsWith (· == ' ') rest then
      let (start, rest) ← takeTagText (skipSpaces rest)
      .ok (handle name start, rest)
    else malformed
  else malformed

/-- The directive in front, after its percent sign, and what follows its line. -/
def takeDirective (s : List Spot) : Except Failure (Token × List Spot) := do
  let (name, rest) := cutName s
  if name.isEmpty || !Spot.endsAt endsPart rest then malformed
  else
    let (t, rest) ←
      match String.ofList name with
      | "YAML" => takeVersion (skipSpaces rest)
      | "TAG" => takeHandleStart (skipSpaces rest)
      | _ => .ok (directive, rest.dropWhile fun c => !isBreak c.char)
    if Spot.endsAt endsPart rest then .ok (t, ← Spot.nextLine rest) else malformed

end Token

end ObjectStore.Yaml
