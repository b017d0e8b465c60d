import ObjectStore.Failure.Basic
import ObjectStore.Text.Blank
import ObjectStore.Value.Order

/-! # Field selections

The fields that a query selects are given by a text or by a sequence. The block that selects the
identifier may be written with blanks inside; it is dropped wherever it occurs, since every query
selects the identifier at its end.

* `idBlockLength?`: how far an identifier block at the front of a text reaches.
* `splitText`: the fields of a text, `fieldsOf`: those of a value.
* `resolve`: the fields as they are sent. -/

namespace ObjectStore.Fields

/-- The field whose block holds what the store adds to an object. -/
def metadataKey : String := "_additional"

/-- The selection of the identifier. -/
def idField : String := "_additional \x7b id \x7d"

/-- The length of `cs` up to the end of `word`, if nothing but blanks are before that, and the
rest. -/
def blanksThen (word : List Char) (cs : List Char) : Option (Nat × List Char) :=
  let blanks := cs.takeWhile Text.isBlank
  let rest := cs.dropWhile Text.isBlank
  if word.isPrefixOf rest then some (blanks.length + word.length, rest.drop word.length) else none

/-- The length of the identifier block at the front of `cs`, if there is one. -/
def idBlockLength? (cs : List Char) : Option Nat := do
  let name := metadataKey.toList
  if name.isPrefixOf cs then
    let (opening, rest) ← blanksThen ['\x7b'] (cs.drop name.length)
    let (key, rest) ← blanksThen ['i', 'd'] rest
    let (closing, _) ← blanksThen ['\x7d'] rest
    some (name.length + opening + key + closing)
  else none

/-- Whether `cs` is an identifier block, blanks around it aside. -/
def isIdBlock (cs : List Char) : Bool :=
  let cs := Text.strip cs
  idBlockLength? cs == some cs.length

/-- A text with each identifier block replaced by a blank; first some characters are left out. -/
def blankIdBlocks : Nat → List Char → List Char
  | _, [] => []
  | skip + 1, _ :: cs => blankIdBlocks skip cs
  | 0, c :: cs =>
    match idBlockLength? (c :: cs) with
    | some n => ' ' :: blankIdBlocks (n - 1) cs
    | none => c :: blankIdBlocks 0 cs

/-- The fields of `text`: its words once the identifier blocks are gone. -/
def splitText (text : String) : List String :=
  (Text.words (blankIdBlocks 0 text.toList)).map String.ofList

/-- The `items` of a set of fields in ascending order. -/
def sortedItems (items : List Value) : Except Failure (List Value) :=
  match Value.sorted? items with
  | some xs => .ok xs
  | none => .error (.misuse (.unordered "<" "set" "set"))

/-- The fields that a value gives: none for null, those of a text, the items of a sequence, and the
items of a set in ascending order. -/
def fieldsOf : Value → Except Failure (List Value)
  | .null => .ok []
  | .text s => .ok ((splitText s).map .text)
  | .set xs => sortedItems xs
  | .frozenset xs => sortedItems xs
  | v =>
    match v.items? with
    | some xs => .ok xs
    | none => .error (.misuse (.notIterable v.typeName))

/-- The texts of fields other than identifier blocks. -/
def ownFields : List Value → Except Failure (List String)
  | [] => .ok []
  | .text s :: vs => (ownFields vs).map fun rest => if isIdBlock s.toList then rest else s :: rest
  | .bytes _ :: _ => .error (.misuse (.notText "bytes"))
  | _ :: _ => .error .missingAttribute

/-- The `fields` as they are sent, the identifier last. -/
def resolve (fields : List Value) : Except Failure (List String) :=
  (ownFields fields).map (· ++ [idField])

/-- The names that `v` selects: a sequence of texts that are not blank. -/
def selectionOf (v : Value) : Except Failure (List String) :=
  match v with
  | .text _ => .error (.invalid .selectionNotList)
  | _ =>
    match v.items? with
    | none => .error (.misuse (.notIterable v.typeName))
    | some items => items.mapM nameOf
where
  /-- The name that an item of a selection is. The objection to any other item shows the item. -/
  nameOf : Value → Except Failure String
    | .text s =>
      if Text.allBlank s.toList then .error (.invalid (.badSelection (.text s))) else .ok s
    | v => .error (.rejected v (.badSelection v))

end ObjectStore.Fields
