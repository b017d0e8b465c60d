import Mathlib
import ObjectStore.Proofs.GraphQL.Tokens

/-! # String values of the query language

The grammar of the strings between two quotes, piece by piece, with the character that each piece
stands for: a character that stands for itself, a letter behind a backslash, or a number behind one,
which is written by four hexadecimal digits, by two times four for what is beyond them, or by any
digits between braces. A text of the grammar says but one thing, and where it ends does not hang on
what follows it.

* `StringValue`: a string value and the text that it says.
* `StringValue.append_inj`: string values at the front of equal texts say the same.
* `text_stringValue`: a text is written as a string value that says it. -/

namespace ObjectStore.GraphQL

/-! ## The grammar -/

/-- A number in hexadecimal digits, of which there are some. -/
inductive HexNumber : Nat → List Char → Prop
  | intro {cs : List Char} (hne : cs ≠ []) (hdigits : ∀ c ∈ cs, (Text.digitValue? 16 c).isSome) :
    HexNumber (Text.digitsNat 16 cs) cs

/-- A number of at most sixteen bits in four hexadecimal digits. -/
inductive HexUnit : Nat → List Char → Prop
  | intro {n : Nat} {cs : List Char} (hnumber : HexNumber n cs) (hlength : cs.length = 4) :
    HexUnit n cs

/-- The character that a letter behind a backslash stands for. -/
def escapedChar? : Char → Option Char
  | '"' => some '"'
  | '\\' => some '\\'
  | '/' => some '/'
  | 'b' => some '\x08'
  | 'f' => some '\x0c'
  | 'n' => some '\n'
  | 'r' => some '\r'
  | 't' => some '\t'
  | _ => none

/-- A character by its number. What is beyond sixteen bits is written by a pair of surrogates, which
stand for no characters by themselves. -/
inductive NumberedChar : Char → List Char → Prop
  | unit {c : Char} {cs : List Char} (hunit : HexUnit c.toNat cs) : NumberedChar c cs
  | pair {c : Char} {leading trailing : Nat} {cs ds : List Char} (hleading : HexUnit leading cs)
    (hleads : 0xD800 ≤ leading ∧ leading < 0xDC00) (htrailing : HexUnit trailing ds)
    (htrails : 0xDC00 ≤ trailing ∧ trailing < 0xE000)
    (hc : c.toNat = (leading - 0xD800) * 0x400 + (trailing - 0xDC00) + 0x10000) :
    NumberedChar c (cs ++ '\\' :: 'u' :: ds)
  | braced {c : Char} {cs : List Char} (hnumber : HexNumber c.toNat cs) :
    NumberedChar c ('\x7b' :: (cs ++ ['\x7d']))

/-- A character of a string, and how it is written. -/
inductive StringCharacter : Char → List Char → Prop
  | source {c : Char} (hquote : c ≠ '"') (hbackslash : c ≠ '\\') (hline : isLineEnd c = false) :
    StringCharacter c [c]
  | escaped {e c : Char} (he : escapedChar? e = some c) : StringCharacter c ['\\', e]
  | numbered {c : Char} {cs : List Char} (hcs : NumberedChar c cs) :
    StringCharacter c ('\\' :: 'u' :: cs)

/-- The characters of a string, and how they are written one after the other. -/
inductive StringCharacters : List Char → List Char → Prop
  | nil : StringCharacters [] []
  | cons {c : Char} {cs text source : List Char} (hc : StringCharacter c cs)
    (htext : StringCharacters text source) : StringCharacters (c :: text) (cs ++ source)

/-- A string value between quotes, and the text that it says. -/
inductive StringValue : List Char → List Char → Prop
  | intro {text source : List Char} (h : StringCharacters text source) :
    StringValue text ('"' :: (source ++ ['"']))

variable {c d : Char} {m n : Nat} {as bs cs ds r s text source : List Char}

/-! ## String values say but one thing -/

/-- A hexadecimal number begins with a digit. -/
theorem HexNumber.head_isSome (h : HexNumber n (c :: cs)) : (Text.digitValue? 16 c).isSome := by
  obtain ⟨-, hdigits⟩ := h
  exact hdigits c List.mem_cons_self

/-- Hexadecimal digits write but one number. -/
theorem HexNumber.unique (h : HexNumber m cs) (h' : HexNumber n cs) : m = n := by
  obtain ⟨-, -⟩ := h
  obtain ⟨-, -⟩ := h'
  rfl

/-- `as ++ c :: r = bs ++ c :: s`: numbers that are followed by the same sign, which is no digit,
are taken off a text. -/
theorem HexNumber.append_inj (ha : HexNumber m as) (hb : HexNumber n bs)
    (hc : Text.digitValue? 16 c = none) (h : as ++ c :: r = bs ++ c :: s) : m = n ∧ r = s := by
  obtain ⟨-, hdigits⟩ := ha
  obtain ⟨-, hdigits'⟩ := hb
  obtain ⟨rfl, hrest⟩ := Text.append_inj_of_stop hdigits hdigits' (by simp [hc]) (by simp [hc]) h
  exact ⟨rfl, (List.cons.inj hrest).2⟩

/-- `as ++ r = bs ++ s`: numbers of four digits are taken off a text. -/
theorem HexUnit.append_inj (ha : HexUnit m as) (hb : HexUnit n bs) (h : as ++ r = bs ++ s) :
    m = n ∧ r = s := by
  obtain ⟨hnumber, hlength⟩ := ha
  obtain ⟨hnumber', hlength'⟩ := hb
  obtain ⟨rfl, hrest⟩ := List.append_inj h (hlength.trans hlength'.symm)
  exact ⟨hnumber.unique hnumber', hrest⟩

/-- `cs ++ r ≠ '\x7b' :: s`: A brace is no digit. -/
theorem HexUnit.append_ne_brace (h : HexUnit n cs) : cs ++ r ≠ '\x7b' :: s := by
  intro heq
  obtain ⟨hnumber, hlength⟩ := h
  cases cs with
  | nil => cases hlength
  | cons c cs =>
    obtain ⟨rfl, -⟩ := List.cons.inj heq
    exact absurd hnumber.head_isSome (by decide)

/-- Surrogates are not the numbers of characters. -/
theorem not_surrogate (c : Char) : ¬ (0xD800 ≤ c.toNat ∧ c.toNat < 0xE000) := by
  rintro ⟨hlow, hhigh⟩
  rcases c.valid with h | ⟨h, -⟩
  · exact absurd (show c.toNat < 0xD800 from h) (Nat.not_lt.mpr hlow)
  · exact absurd (show 0xDFFF < c.toNat from h) (by omega)

/-- `c.toNat = d.toNat` only if `c = d`. -/
theorem toNat_inj (h : c.toNat = d.toNat) : c = d := by
  rw [← Char.ofNat_toNat c, h, Char.ofNat_toNat]

/-- `as ++ r = bs ++ s`: characters by their numbers are taken off a text. -/
theorem NumberedChar.append_inj (ha : NumberedChar c as) (hb : NumberedChar d bs)
    (h : as ++ r = bs ++ s) : c = d ∧ r = s := by
  cases ha with
  | unit hunit =>
    cases hb with
    | unit hunit' =>
      obtain ⟨hnumber, hrest⟩ := hunit.append_inj hunit' h
      exact ⟨toNat_inj hnumber, hrest⟩
    | pair hleading hleads =>
      rw [List.append_assoc] at h
      -- The first unit of a pair is a surrogate, which is no character.
      obtain ⟨rfl, -⟩ := hunit.append_inj hleading h
      exact absurd ⟨hleads.1, by omega⟩ (not_surrogate c)
    | braced => exact absurd h hunit.append_ne_brace
  | pair hleading hleads htrailing htrails hc =>
    rw [List.append_assoc] at h
    cases hb with
    | unit hunit =>
      obtain ⟨rfl, -⟩ := hleading.append_inj hunit h
      exact absurd ⟨hleads.1, by omega⟩ (not_surrogate d)
    | pair hleading' _ htrailing' _ hd =>
      rw [List.append_assoc] at h
      obtain ⟨rfl, h⟩ := hleading.append_inj hleading' h
      simp only [List.cons_append, List.cons.injEq, true_and] at h
      -- Both are pairs, of the same two units.
      obtain ⟨rfl, hrest⟩ := htrailing.append_inj htrailing' h
      exact ⟨toNat_inj (hc.trans hd.symm), hrest⟩
    | braced => exact absurd h hleading.append_ne_brace
  | braced hnumber =>
    cases hb with
    | unit hunit => exact absurd h.symm hunit.append_ne_brace
    | pair hleading =>
      rw [List.append_assoc] at h
      exact absurd h.symm hleading.append_ne_brace
    | braced hnumber' =>
      simp only [List.cons_append, List.append_assoc, List.nil_append, List.cons.injEq,
        true_and] at h
      obtain ⟨hvalue, hrest⟩ := hnumber.append_inj hnumber' (by decide) h
      exact ⟨toNat_inj hvalue, hrest⟩

/-- `as ++ r = bs ++ s`: the first sign of a piece tells a character that stands for itself from an
escape, and the second one the kinds of escapes. -/
theorem StringCharacter.append_inj (ha : StringCharacter c as) (hb : StringCharacter d bs)
    (h : as ++ r = bs ++ s) : c = d ∧ r = s := by
  cases ha with
  | source _ hbackslash =>
    -- `c` stands for itself: it is no backslash, as an escape would begin with one.
    cases hb with
    | source => exact List.cons.inj h
    | escaped => exact absurd (List.cons.inj h).1 hbackslash
    | numbered => exact absurd (List.cons.inj h).1 hbackslash
  | escaped he =>
    -- `\n` and the like: the letter behind the backslash is not that of a number.
    cases hb with
    | source _ hbackslash => exact absurd (List.cons.inj h).1.symm hbackslash
    | escaped he' =>
      simp only [List.cons_append, List.nil_append, List.cons.injEq, true_and] at h
      obtain ⟨rfl, hrest⟩ := h
      exact ⟨Option.some.inj (he.symm.trans he'), hrest⟩
    | numbered =>
      simp only [List.cons_append, List.cons.injEq, true_and] at h
      rw [h.1] at he
      cases he
  | numbered hcs =>
    cases hb with
    | source _ hbackslash => exact absurd (List.cons.inj h).1.symm hbackslash
    | escaped he =>
      simp only [List.cons_append, List.cons.injEq, true_and] at h
      rw [← h.1] at he
      cases he
    | numbered hds =>
      simp only [List.cons_append, List.cons.injEq, true_and] at h
      exact hcs.append_inj hds h

/-- `cs ++ r ≠ '"' :: s`: no piece begins with a quote. -/
theorem StringCharacter.append_ne_quote (h : StringCharacter c cs) : cs ++ r ≠ '"' :: s := by
  intro heq
  cases h with
  | source hquote => exact hquote (List.cons.inj heq).1
  | escaped => exact absurd (List.cons.inj heq).1 (by decide)
  | numbered => exact absurd (List.cons.inj heq).1 (by decide)

/-- `as ++ '"' :: r = bs ++ '"' :: s`: the characters of strings are taken off a text, each with its
closing quote. -/
theorem StringCharacters.append_inj (ha : StringCharacters cs as) (hb : StringCharacters ds bs)
    (h : as ++ '"' :: r = bs ++ '"' :: s) : cs = ds ∧ r = s := by
  -- Piece by piece: a piece never begins with the quote that ends the other text.
  induction ha generalizing ds bs with
  | nil =>
    cases hb with
    | nil => exact ⟨rfl, (List.cons.inj h).2⟩
    | cons hd =>
      rw [List.append_assoc] at h
      exact absurd h.symm hd.append_ne_quote
  | cons hc _ ih =>
    rw [List.append_assoc] at h
    cases hb with
    | nil => exact absurd h hc.append_ne_quote
    | cons hd hds =>
      rw [List.append_assoc] at h
      obtain ⟨rfl, hrest⟩ := hc.append_inj hd h
      obtain ⟨rfl, hrest⟩ := ih hds hrest
      exact ⟨rfl, hrest⟩

/-- `as ++ r = bs ++ s`: string values at the front of equal texts say the same, and equal rests
follow them. -/
theorem StringValue.append_inj (ha : StringValue cs as) (hb : StringValue ds bs)
    (h : as ++ r = bs ++ s) : cs = ds ∧ r = s := by
  obtain ⟨ha⟩ := ha
  obtain ⟨hb⟩ := hb
  simp only [List.cons_append, List.append_assoc, List.nil_append, List.cons.injEq, true_and] at h
  exact ha.append_inj hb h

/-- `StringValue cs source` and `StringValue ds source` only if `cs = ds`: a string value says but
one text. -/
theorem StringValue.unique (h : StringValue cs source) (h' : StringValue ds source) : cs = ds :=
  (h.append_inj h' (r := []) (s := []) rfl).1

/-- `as <+: bs`: no string value is the beginning of another. -/
theorem StringValue.eq_of_isPrefixOf (ha : StringValue cs as) (hb : StringValue ds bs)
    (h : as <+: bs) : cs = ds ∧ as = bs := by
  obtain ⟨r, hr⟩ := h
  obtain ⟨rfl, rfl⟩ := ha.append_inj hb (s := []) (hr.trans (List.append_nil bs).symm)
  exact ⟨rfl, (List.append_nil as).symm.trans hr⟩

/-! ## Literals -/

/-- `HexUnit n (Text.hexDigits 4 n)` for numbers of at most sixteen bits. -/
theorem hexUnit_hexDigits (h : n < 0x10000) : HexUnit n (Text.hexDigits 4 n) := by
  have hdigits : ∀ c ∈ Text.hexDigits 4 n, (Text.digitValue? 16 c).isSome := by
    intro c hc
    obtain ⟨m, hm, rfl⟩ := Text.exists_of_mem_hexDigits hc
    interval_cases m <;> decide
  have hlength := Text.length_hexDigits 4 n
  have hnumber := HexNumber.intro (List.ne_nil_of_length_pos (by omega)) hdigits
  have hvalue : Text.digitsNat 16 (Text.hexDigits 4 n) = n :=
    (Text.digitsNat_hexDigits 4 n).trans (Nat.mod_eq_of_lt h)
  rw [hvalue] at hnumber
  exact ⟨hnumber, hlength⟩

/-- `c ∈ Json.shortEscaped`: what is escaped by a letter stands for itself again, and the letter is
no control character. -/
theorem exists_letter_of_short (h : c ∈ Json.shortEscaped) :
    ∃ e, Text.escapeChar c = ['\\', e] ∧ escapedChar? e = some c ∧ 0x20 ≤ e.toNat := by
  simp only [Json.shortEscaped, List.mem_cons, List.not_mem_nil, or_false] at h
  rcases h with rfl | rfl | rfl | rfl | rfl | rfl | rfl <;> exact ⟨_, rfl, rfl, by decide⟩

/-- `StringCharacter c (Text.escapeChar c)`: an escaped character says the character. -/
theorem stringCharacter_escapeChar (c : Char) : StringCharacter c (Text.escapeChar c) := by
  by_cases hshort : c ∈ Json.shortEscaped
  · obtain ⟨e, hescape, he, -⟩ := exists_letter_of_short hshort
    rw [hescape]
    exact .escaped he
  · rw [Json.escapeChar_of_not_short hshort]
    split
    · next hcontrol => exact .numbered (.unit (hexUnit_hexDigits (by omega)))
    · simp only [Json.shortEscaped, List.mem_cons, not_or] at hshort
      exact .source hshort.1 hshort.2.1 (by simp [isLineEnd, hshort])

/-- `StringCharacters cs (Text.escapeChars cs)`. -/
theorem stringCharacters_escapeChars (cs : List Char) :
    StringCharacters cs (Text.escapeChars cs) := by
  induction cs with
  | nil => exact .nil
  | cons c cs ih => exact .cons (stringCharacter_escapeChar c) ih

/-- `StringValue cs (Text.literal cs)`: the literal of a text says the text. -/
theorem stringValue_literal (cs : List Char) : StringValue cs (Text.literal cs) :=
  .intro (stringCharacters_escapeChars cs)

/-- `0x20 ≤ d.toNat` for each `d` in `escapeChar c`: no control character stays as it is. -/
theorem le_toNat_of_mem_escapeChar (h : d ∈ Text.escapeChar c) : 0x20 ≤ d.toNat := by
  by_cases hshort : c ∈ Json.shortEscaped
  · obtain ⟨e, hescape, -, he⟩ := exists_letter_of_short hshort
    rw [hescape] at h
    rcases List.mem_pair.mp h with rfl | rfl
    · decide
    · exact he
  · rw [Json.escapeChar_of_not_short hshort] at h
    split at h
    · rw [Text.unitEscape, List.mem_cons, List.mem_cons] at h
      rcases h with rfl | rfl | h
      · decide
      · decide
      · obtain ⟨m, hm, rfl⟩ := Text.exists_of_mem_hexDigits h
        -- A digit of a number in hexadecimal.
        interval_cases m <;> decide
    · next hcontrol =>
      rw [List.mem_singleton.mp h]
      omega

/-- `0x20 ≤ d.toNat` for each `d` in `literal cs`. -/
theorem le_toNat_of_mem_literal (h : d ∈ Text.literal cs) : 0x20 ≤ d.toNat := by
  rw [Text.literal, List.mem_cons, List.mem_append, List.mem_singleton, Text.escapeChars,
    List.mem_flatMap] at h
  rcases h with rfl | ⟨c, -, hc⟩ | rfl
  · decide
  · exact le_toNat_of_mem_escapeChar hc
  · decide

/-! ## Texts in a query -/

/-- `isEnumKey k = false` for every key but `"operator"`. -/
theorem isEnumKey_of_ne {k : Value} (h : k ≠ .text "operator") : isEnumKey k = false := by
  cases k with
  | text name =>
    rw [isEnumKey, beq_eq_false_iff_ne]
    rintro rfl
    exact h rfl
  | _ => rfl

/-- A text is written as its literal below every key but `"operator"`. -/
theorem text_text (s : String) {key : Option String} (h : key ≠ some "operator") :
    GraphQL.text (.text s) key = .ok (String.ofList (Text.literal s.toList)) := by
  rw [GraphQL.text, beq_false_of_ne h, literal]
  rfl

/-- Below every key but `"operator"`, a text is written as a string value that says this text and no
other. It is a token by itself, has no control characters, and is not the beginning of what is
written for any other text. -/
theorem text_stringValue (s : String) {key : Option String} (hkey : key ≠ some "operator") :
    ∃ source, GraphQL.text (.text s) key = .ok source ∧
      (∀ k, k ≠ .text "operator" → literal (isEnumKey k) (.text s) = .ok source.toList) ∧
      StringValue s.toList source.toList ∧
      (∀ said, StringValue said source.toList → said = s.toList) ∧
      (∃ raw, tokens? source.toList = some [.string raw]) ∧
      (∀ c ∈ source.toList, 0x20 ≤ c.toNat) ∧
      ∀ s' key' source', key' ≠ some "operator" → GraphQL.text (.text s') key' = .ok source' →
        source.toList <+: source'.toList → s = s' ∧ source = source' := by
  refine ⟨_, text_text s hkey, ?_, ?_, ?_, ?_, ?_, ?_⟩
  · intro k hk
    rw [isEnumKey_of_ne hk, literal, String.toList_ofList]
    rfl
  · rw [String.toList_ofList]
    exact stringValue_literal s.toList
  · intro said hsaid
    rw [String.toList_ofList] at hsaid
    exact hsaid.unique (stringValue_literal s.toList)
  · rw [String.toList_ofList]
    exact ⟨_, (ReadsAs.literal s.toList).tokens?_eq⟩
  · intro c hc
    rw [String.toList_ofList] at hc
    exact le_toNat_of_mem_literal hc
  · intro s' key' source' hkey' hsource' hprefix
    rw [text_text s' hkey', Except.ok.injEq] at hsource'
    subst hsource'
    rw [String.toList_ofList, String.toList_ofList] at hprefix
    obtain ⟨htext, hsource⟩ :=
      (stringValue_literal s.toList).eq_of_isPrefixOf (stringValue_literal s'.toList) hprefix
    exact ⟨String.toList_injective htext, congrArg String.ofList hsource⟩

/-- A text of a quote, a backslash, a line feed, another control character and a letter that no
query needs to escape. -/
def awkward : String := "\"\\\n\x01é"

/-- `text_stringValue` for `awkward`, below the key of text operands. -/
theorem text_stringValue_awkward :
    some "valueText" ≠ some "operator" ∧
      ∃ source, GraphQL.text (.text awkward) (some "valueText") = .ok source ∧
        source = "\"\\\"\\\\\\n\\u0001é\"" ∧ StringValue awkward.toList source.toList ∧
        (∀ said, StringValue said source.toList → said = awkward.toList) ∧
        ∀ s' source', GraphQL.text (.text s') none = .ok source' →
          source.toList <+: source'.toList → awkward = s' := by
  have hkey : some "valueText" ≠ some "operator" := by decide
  obtain ⟨source, hsource, -, hvalue, hunique, -, -, hfirst⟩ := text_stringValue awkward hkey
  refine ⟨hkey, source, hsource, ?_, hvalue, hunique, fun s' source' hsource' hprefix => ?_⟩
  · rw [text_text awkward hkey, Except.ok.injEq] at hsource
    rw [← hsource]
    decide
  · exact (hfirst s' none source' (by decide) hsource' hprefix).1

end ObjectStore.GraphQL
