import Mathlib
import ObjectStore.Text.Percent

/-! # Percent-encoded texts are read back

Percent-decoding recovers every text from its form in a path. The form consists of unreserved
characters and percent signs, so none of the characters that divide a path into parts stands in it.

* `decode?_encode`: a form is read back as the text it was made of.
* `encode_toList_eq_iff`: unreserved characters are the form of themselves alone.
* `isUnreserved_or_eq_of_mem_encode`: which characters a form consists of. -/

namespace ObjectStore.Text.Percent

/-- `isUnreserved (hexDigitUpper n) = true`: hexadecimal digits are unreserved. -/
theorem isUnreserved_hexDigitUpper (n : Nat) : isUnreserved (hexDigitUpper n) = true := by
  rw [hexDigitUpper]
  have hlt : n % 16 < 16 := Nat.mod_lt n (by decide)
  interval_cases n % 16 <;> decide

/-- `digitValue? 16 (hexDigitUpper n) = some (n % 16)`. -/
theorem digitValue?_hexDigitUpper (n : Nat) : digitValue? 16 (hexDigitUpper n) = some (n % 16) := by
  rw [hexDigitUpper]
  have hlt : n % 16 < 16 := Nat.mod_lt n (by decide)
  interval_cases n % 16 <;> decide

/-- `bytes? (encodeByte b ++ rest)`: an encoded byte is read back as the byte. -/
theorem bytes?_encodeByte (b : UInt8) (rest : List Char) :
    bytes? (encodeByte b ++ rest) = (bytes? rest).map (b :: ·) := by
  -- The two digits are those of the byte, since it has no more than two.
  have hb : b.toNat < 256 := b.toNat_lt
  have hvalue : UInt8.ofNat (16 * (b.toNat / 16 % 16) + b.toNat % 16) = b := by
    rw [show 16 * (b.toNat / 16 % 16) + b.toNat % 16 = b.toNat by omega, UInt8.ofNat_toNat]
  simp only [encodeByte, List.cons_append, List.nil_append, bytes?, digitValue?_hexDigitUpper,
    Option.bind_eq_bind, Option.bind_some, hvalue]

/-- `bytes? (bs.flatMap encodeByte ++ rest)`: encoded bytes are read back as the bytes. -/
theorem bytes?_encodeBytes (bs : List UInt8) (rest : List Char) :
    bytes? (bs.flatMap encodeByte ++ rest) = (bytes? rest).map (bs ++ ·) := by
  induction bs with
  | nil => simp
  | cons b bs ih =>
    rw [List.flatMap_cons, List.append_assoc, bytes?_encodeByte, ih, Option.map_map]
    rfl

/-- `bytes? (c :: cs)`: A character other than a percent sign is read as its bytes. -/
theorem bytes?_cons_of_ne {c : Char} (h : c ≠ '%') (cs : List Char) :
    bytes? (c :: cs) = (bytes? cs).map (String.utf8EncodeChar c ++ ·) := by
  rw [bytes?]
  · rw [if_neg (by simpa using h)]
  · rintro a b rest rfl
    exact absurd rfl h

/-- `bytes? (encode cs) = some (cs.flatMap String.utf8EncodeChar)`: each character is read back as
its bytes, whether it stands for itself or not. -/
theorem bytes?_encode (cs : List Char) :
    bytes? (encode cs) = some (cs.flatMap String.utf8EncodeChar) := by
  induction cs with
  | nil => rfl
  | cons c cs ih =>
    rw [encode_cons, encodeChar, List.flatMap_cons]
    split
    · next hc =>
      -- A character that stands for itself is no percent sign.
      have hpercent : c ≠ '%' := by
        rintro rfl
        exact absurd hc (by decide)
      rw [List.singleton_append, bytes?_cons_of_ne hpercent, ih]
      rfl
    · rw [bytes?_encodeBytes, ih]
      rfl

/-- `decode? (encode cs) = some (String.ofList cs)`: A form is read back as the text it was made
of. -/
theorem decode?_encode (cs : List Char) : decode? (encode cs) = some (String.ofList cs) := by
  have hbytes : ByteArray.mk (cs.flatMap String.utf8EncodeChar).toArray = cs.utf8Encode :=
    ByteArray.ext List.data_toByteArray.symm
  have hvalid : cs.utf8Encode.IsValidUTF8 := (String.ofList cs).isValidUTF8
  rw [decode?, bytes?_encode, Option.bind_some, hbytes, String.fromUTF8?, dif_pos hvalid]
  rfl

/-- `decode? (encode s.toList) = some s`. -/
theorem decode?_encode_toList (s : String) : decode? (encode s.toList) = some s := by
  rw [decode?_encode, String.ofList_toList]

/-- `encode cs = cs`: unreserved characters are their own form. -/
theorem encode_of_isUnreserved {cs : List Char} (h : ∀ c ∈ cs, isUnreserved c = true) :
    encode cs = cs := by
  induction cs with
  | nil => rfl
  | cons c cs ih =>
    rw [encode_cons, encodeChar, if_pos (h c List.mem_cons_self),
      ih fun d hd => h d (List.mem_cons_of_mem _ hd), List.singleton_append]

/-- `encode s.toList = cs ↔ s = String.ofList cs`: unreserved characters are the form of no other
text than themselves. -/
theorem encode_toList_eq_iff {s : String} {cs : List Char} (h : ∀ c ∈ cs, isUnreserved c = true) :
    encode s.toList = cs ↔ s = String.ofList cs := by
  constructor
  · intro hs
    have hdecode := decode?_encode_toList s
    rw [hs, ← encode_of_isUnreserved h, decode?_encode, Option.some.injEq] at hdecode
    exact hdecode.symm
  · rintro rfl
    rw [String.toList_ofList, encode_of_isUnreserved h]

/-- `c ∈ encode cs`: A form consists of unreserved characters and percent signs. -/
theorem isUnreserved_or_eq_of_mem_encode {cs : List Char} {c : Char} (h : c ∈ encode cs) :
    isUnreserved c = true ∨ c = '%' := by
  obtain ⟨d, -, hd⟩ := List.mem_flatMap.mp h
  rw [encodeChar] at hd
  split at hd
  · next hunreserved =>
    rw [List.mem_singleton.mp hd]
    exact .inl hunreserved
  · obtain ⟨b, -, hb⟩ := List.mem_flatMap.mp hd
    simp only [encodeByte, List.mem_cons, List.not_mem_nil, or_false] at hb
    rcases hb with rfl | rfl | rfl
    · exact .inr rfl
    · exact .inl (isUnreserved_hexDigitUpper _)
    · exact .inl (isUnreserved_hexDigitUpper _)

end ObjectStore.Text.Percent
