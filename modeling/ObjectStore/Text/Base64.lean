/-! # Base64

Bytes in groups of three, each group written by four characters of six bits; equals signs stand for
what is missing from the last group. Characters outside the alphabet do not count, and nothing
counts after a group that equals signs complete.

* `Base64.decode?`: the bytes that a text writes. -/

namespace ObjectStore.Text.Base64

/-- The six bits that a character of the alphabet stands for. -/
def sextet? (c : Char) : Option Nat :=
  if c.isUpper then some (c.toNat - 'A'.toNat)
  else if c.isLower then some (c.toNat - 'a'.toNat + 26)
  else if c.isDigit then some (c.toNat - '0'.toNat + 52)
  else if c == '+' then some 62
  else if c == '/' then some 63
  else none

/-- The sextets of a text, if the last group is complete. So many characters of the present group
and so many equals signs after them have been read. -/
def sextets? (count signs : Nat) : List Char → Option (List Nat)
  | [] => if count = 0 then some [] else none
  | c :: cs =>
    if c == '=' then
      if count < 2 then sextets? count signs cs
      else if 4 ≤ count + signs + 1 then some []
      else sextets? count (signs + 1) cs
    else
      match sextet? c with
      | none => sextets? count signs cs
      | some n => (sextets? ((count + 1) % 4) 0 cs).map (n :: ·)

/-- The bytes of some sextets after a number of so many pending bits; bits that fill no byte are
left out. -/
def bytes (pending bits : Nat) : List Nat → List UInt8
  | [] => []
  | n :: ns =>
    let pending := 64 * pending + n
    if bits < 2 then bytes pending (bits + 6) ns
    else
      let unit := Nat.pow 2 (bits - 2)
      UInt8.ofNat (pending / unit) :: bytes (pending % unit) (bits - 2) ns

/-- The bytes that a text writes. -/
def decode? (cs : List Char) : Option (List UInt8) := (sextets? 0 0 cs).map (bytes 0 0)

end ObjectStore.Text.Base64
