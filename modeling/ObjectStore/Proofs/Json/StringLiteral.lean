import Mathlib
import ObjectStore.Json.Reader
import ObjectStore.Text.Escape

/-! # String literals are read back

The reader of JSON strings recovers from a string literal the text it was made of, whatever stands
after its closing quote. So a literal ends where it ends: no literal is the beginning of another.

* `readChars_escapeChars`: the escaped characters of a text are read back as the text.
* `literal_append_inj`: literals at the front of equal texts are of the same text. -/

namespace ObjectStore.Json

open Text

/-- `takeEscapedUnit? (hexDigits 4 n ++ rest)`: the number of a control character is read back from
its four digits. -/
theorem takeEscapedUnit?_control : ∀ n < 0x20, ∀ rest : List Char,
    takeEscapedUnit? (hexDigits 4 n ++ rest) = some (Char.ofNat n, rest) := by
  intro n hn rest
  interval_cases n <;> rfl

/-- The characters that are escaped by a letter or by themselves. -/
def shortEscaped : List Char := ['"', '\\', '\n', '\r', '\t', '\x0c', '\x08']

/-- `escapeChar c` where no letter stands for `c`: its number for a control character, itself for
another. -/
theorem escapeChar_of_not_short {c : Char} (h : c ∉ shortEscaped) :
    escapeChar c = if c.toNat < 0x20 then unitEscape c.toNat else [c] := by
  simp only [shortEscaped, List.mem_cons, List.not_mem_nil, or_false, not_or] at h
  simp [escapeChar, h]

/-- `readChars (fuel + 1) (escapeChar c ++ rest)`: A character that is escaped is read back, and so
is one that is not. -/
theorem readChars_escapeChar (c : Char) (rest : List Char) (fuel : Nat) :
    readChars (fuel + 1) (escapeChar c ++ rest) =
      (readChars fuel rest).map fun (cs, rest) => (c :: cs, rest) := by
  by_cases hshort : c ∈ shortEscaped
  · simp only [shortEscaped, List.mem_cons, List.not_mem_nil, or_false] at hshort
    rcases hshort with rfl | rfl | rfl | rfl | rfl | rfl | rfl <;> rfl
  · rw [escapeChar_of_not_short hshort]
    split
    · next hcontrol =>
      have hunit := takeEscapedUnit?_control c.toNat hcontrol rest
      rw [Char.ofNat_toNat] at hunit
      simp only [unitEscape, List.cons_append, readChars, hunit]
    · next hcontrol =>
      -- The character stands for itself: it is neither the quote nor the backslash.
      simp only [shortEscaped, List.mem_cons, not_or] at hshort
      simp [readChars, hshort.1, hshort.2.1, hcontrol]

/-- `readChars fuel (escapeChars cs ++ '"' :: rest) = .ok (cs, rest)`: the escaped characters of a
text and a closing quote are read back as the text. -/
theorem readChars_escapeChars (cs rest : List Char) (fuel : Nat) (h : cs.length < fuel) :
    readChars fuel (escapeChars cs ++ '"' :: rest) = .ok (cs, rest) := by
  induction cs generalizing fuel with
  | nil =>
    obtain ⟨fuel, rfl⟩ := Nat.exists_eq_succ_of_ne_zero (Nat.ne_of_gt h)
    rfl
  | cons c cs ih =>
    obtain ⟨fuel, rfl⟩ := Nat.exists_eq_succ_of_ne_zero (Nat.ne_of_gt (Nat.zero_lt_of_lt h))
    rw [escapeChars_cons, List.append_assoc, readChars_escapeChar,
      ih fuel (Nat.lt_of_succ_lt_succ h)]
    rfl

/-- `literal cs ++ r = literal ds ++ s`: two string literals at the front of equal texts are of the
same text, and equal rests follow them. -/
theorem literal_append_inj {cs ds r s : List Char} (h : literal cs ++ r = literal ds ++ s) :
    cs = ds ∧ r = s := by
  have hchars : escapeChars cs ++ '"' :: r = escapeChars ds ++ '"' :: s := by
    simpa [literal] using h
  have hcs := readChars_escapeChars cs r (cs.length + ds.length + 1) (by omega)
  have hds := readChars_escapeChars ds s (cs.length + ds.length + 1) (by omega)
  rw [hchars, hds, Except.ok.injEq, Prod.mk.injEq] at hcs
  exact ⟨hcs.1.symm, hcs.2.symm⟩

end ObjectStore.Json
