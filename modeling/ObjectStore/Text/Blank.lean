/-! # Blank characters

The characters that separate words: the ASCII blanks and separators, the next-line character and
the Unicode space separators. The zero-width characters (U+200B, U+FEFF) are not blank.

* `strip` removes blanks at both ends, `words` cuts a text at its runs of blanks.
* `allBlank` tells whether there is anything else in a text. -/

namespace ObjectStore.Text

/-- Whether `c` is blank. -/
def isBlank (c : Char) : Bool :=
  let n := c.toNat
  (0x09 ≤ n && n ≤ 0x0D) || (0x1C ≤ n && n ≤ 0x20) || n == 0x85 || n == 0xA0 || n == 0x1680 ||
    (0x2000 ≤ n && n ≤ 0x200A) || n == 0x2028 || n == 0x2029 || n == 0x202F || n == 0x205F ||
    n == 0x3000

/-- The text `cs` without the blanks at its two ends. -/
def strip (cs : List Char) : List Char :=
  ((cs.dropWhile isBlank).reverse.dropWhile isBlank).reverse

/-- Whether `cs` holds nothing but blanks. -/
def allBlank (cs : List Char) : Bool := cs.all isBlank

/-- The piece of a text before its first blank, and the words after it. -/
def cutWord : List Char → List Char × List (List Char)
  | [] => ([], [])
  | c :: cs =>
    let (word, later) := cutWord cs
    if isBlank c then ([], if word.isEmpty then later else word :: later) else (c :: word, later)

/-- The words of `cs`: its longest pieces without blanks, in order. -/
def words (cs : List Char) : List (List Char) :=
  let (word, later) := cutWord cs
  if word.isEmpty then later else word :: later

/-- `words [] = []`: an empty text has no words. -/
@[simp] theorem words_nil : words [] = [] := rfl

end ObjectStore.Text
