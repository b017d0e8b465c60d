/-! # Capital letters

Capital forms as the names of levels need them: a letter whose capital form is ASCII becomes that
capital; any other character stays, since no level's name has it. -/

namespace ObjectStore.Text

/-- The capital form of a character, where that form is ASCII. The dotless i and the long s have
ASCII capitals, and so have the joined letters. -/
def capitalChar (c : Char) : List Char :=
  match c.toNat with
  | 0x0131 => ['I']
  | 0x017F => ['S']
  | 0x00DF => ['S', 'S']
  | 0xFB00 => ['F', 'F']
  | 0xFB01 => ['F', 'I']
  | 0xFB02 => ['F', 'L']
  | 0xFB03 => ['F', 'F', 'I']
  | 0xFB04 => ['F', 'F', 'L']
  | 0xFB05 => ['S', 'T']
  | 0xFB06 => ['S', 'T']
  | _ => [c.toUpper]

/-- A text with its letters made capital. -/
def capital (text : String) : String := String.ofList (text.toList.flatMap capitalChar)

end ObjectStore.Text
