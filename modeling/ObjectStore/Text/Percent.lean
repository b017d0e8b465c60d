import ObjectStore.Text.Digits

/-! # Percent-encoding

A text as one segment of a path: letters, digits and the four marks `_`, `.`, `-`, `~` stand for
themselves, and each byte of the UTF-8 form of any other character is written by its two
hexadecimal digits.

* `encode_nil`, `encode_cons`: a text is encoded character by character.
* `decode?`: the text with some form, in which more characters may stand for themselves. -/

namespace ObjectStore.Text.Percent

/-- Whether `c` stands for itself in a path segment. -/
def isUnreserved (c : Char) : Bool :=
  c.isAlphanum || c == '_' || c == '.' || c == '-' || c == '~'

/-- The byte `b` by its hexadecimal digits. -/
def encodeByte (b : UInt8) : List Char := ['%', hexDigitUpper (b.toNat / 16), hexDigitUpper b.toNat]

/-- The form of `c` in a path segment. -/
def encodeChar (c : Char) : List Char :=
  if isUnreserved c then [c] else (String.utf8EncodeChar c).flatMap encodeByte

/-- The form of `cs` in a path segment. -/
def encode (cs : List Char) : List Char := cs.flatMap encodeChar

/-- The bytes of a form, if two digits follow each percent sign. -/
def bytes? : List Char → Option (List UInt8)
  | [] => some []
  | '%' :: a :: b :: cs => do
    let high ← digitValue? 16 a
    let low ← digitValue? 16 b
    (bytes? cs).map (UInt8.ofNat (16 * high + low) :: ·)
  | c :: cs => if c == '%' then none else (bytes? cs).map (String.utf8EncodeChar c ++ ·)

/-- The text with some form. -/
def decode? (cs : List Char) : Option String :=
  (bytes? cs).bind fun bs => String.fromUTF8? (ByteArray.mk bs.toArray)

/-- `encode [] = []`. -/
@[simp] theorem encode_nil : encode [] = [] := rfl

/-- `encode (c :: cs) = encodeChar c ++ encode cs`: characters are encoded one by one. -/
@[simp] theorem encode_cons (c : Char) (cs : List Char) :
    encode (c :: cs) = encodeChar c ++ encode cs := rfl

end ObjectStore.Text.Percent
