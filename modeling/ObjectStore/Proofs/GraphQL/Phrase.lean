import Mathlib
import ObjectStore.Proofs.GraphQL.NamedValues
import ObjectStore.Proofs.Text.Digits

/-! # Phrases of the query language

A phrase is a piece of text that closes all the brackets it opens. Its words are what stands bare in
it: names, the members of an enumeration, truth values and numbers, but not what its strings say.

* `Phrase`: the phrases whose words all have a property, with one lemma for each way in which texts
  are put together.
* `Phrase.silent`: a phrase among whose words a name is not gives nothing to the name. -/

namespace ObjectStore.GraphQL

/-- That `cs` is a phrase, and all its words have the property `p`. -/
def Phrase (p : List Char → Prop) (cs : List Char) : Prop :=
  ∃ ts, ReadsAs cs ts ∧ (∀ opened, ts.foldl openAfter opened = opened) ∧
    ∀ w, Token.word w ∈ ts → p w

/-- `isWordChar c = true`: the characters of numbers may stand in words. -/
theorem isWordChar_of_isNumeralChar {c : Char} (h : Text.isNumeralChar c = true) :
    isWordChar c = true := by
  simp only [Text.isNumeralChar, Bool.or_eq_true, beq_iff_eq] at h
  rcases h with (((h | rfl) | rfl) | rfl) | rfl
  · simp [isWordChar, Char.isAlphanum, h]
  all_goals decide

namespace Phrase

variable {p : List Char → Prop} {cs : List Char}

/-- `Phrase p []`. -/
theorem nil : Phrase p [] := ⟨[], .nil, fun _ => rfl, fun _ hw => nomatch hw⟩

/-- A word with the property `p` is a phrase. -/
theorem word (hcs : ∀ c ∈ cs, isWordChar c = true) (hp : p cs) : Phrase p cs := by
  by_cases hne : cs = []
  · subst hne
    exact .nil
  · refine ⟨_, .word hne hcs, fun _ => rfl, fun w hw => ?_⟩
    rwa [Token.word.inj (List.mem_singleton.mp hw)]

/-- A number with the property `p` is a phrase. -/
theorem numeral (hcs : ∀ c ∈ cs, Text.isNumeralChar c = true) (hp : p cs) : Phrase p cs :=
  .word (fun c hc => isWordChar_of_isNumeralChar (hcs c hc)) hp

/-- `Phrase p (Text.literal text)`: A string is a phrase, whatever it says: it has no words. -/
theorem literal (text : List Char) : Phrase p (Text.literal text) :=
  ⟨_, .literal text, fun _ => rfl, fun _ hw => nomatch List.mem_singleton.mp hw⟩

/-- `Phrase p (a :: (cs ++ [b]))`: A phrase between brackets is a phrase. -/
theorem bracketed {a b : Char} (hab : (a, b) ∈ brackets) (h : Phrase p cs) :
    Phrase p (a :: (cs ++ [b])) := by
  obtain ⟨ts, hreads, hclosed, hwords⟩ := h
  refine ⟨_, hreads.bracketed hab, fun opened => ?_, fun w hw => hwords w (by simpa using hw)⟩
  rw [List.foldl_cons, List.foldl_append, hclosed, openAfter_opening hab]
  exact openAfter_closing hab _

/-- A key with the property `p`, a colon and a phrase are a phrase. -/
theorem entry {key : List Char} (hne : key ≠ []) (hkey : ∀ c ∈ key, isWordChar c = true)
    (hp : p key) (h : Phrase p cs) : Phrase p (key ++ ':' :: ' ' :: cs) := by
  obtain ⟨ts, hreads, hclosed, hwords⟩ := h
  refine ⟨_, readsAs_entry hne hkey hreads, hclosed, fun w hw => ?_⟩
  rcases List.mem_cons.mp hw with hw | hw
  · rwa [Token.word.inj hw]
  · exact hwords w (by simpa using hw)

/-- `Phrase p (commaJoin pieces)`: phrases with commas between them are a phrase. -/
theorem commaJoin {pieces : List (List Char)} (h : ∀ piece ∈ pieces, Phrase p piece) :
    Phrase p (GraphQL.commaJoin pieces) := by
  induction pieces with
  | nil => exact .nil
  | cons piece pieces ih =>
    obtain ⟨hpiece, hpieces⟩ := List.forall_mem_cons.mp h
    cases pieces with
    | nil => exact hpiece
    | cons next rest =>
      obtain ⟨ts, hreads, hclosed, hwords⟩ := hpiece
      obtain ⟨us, hreads', hclosed', hwords'⟩ := ih hpieces
      refine ⟨ts ++ us, hreads.append (by decide) (.ignored rfl (.ignored rfl hreads')),
        fun opened => ?_, fun w hw => (List.mem_append.mp hw).elim (hwords w) (hwords' w)⟩
      rw [List.foldl_append, hclosed, hclosed']

/-- `Silent name cs`: A phrase among whose words a name is not gives nothing to the name. -/
theorem silent {name : List Char} (h : Phrase (· ≠ name) cs) : Silent name cs := by
  have hnone : ∀ ts, (∀ w, Token.word w ∈ ts → w ≠ name) → ∀ opened rest,
      namedValues name opened (ts ++ rest) = namedValues name (ts.foldl openAfter opened) rest := by
    intro ts
    -- On the tokens: one that is not the name gives nothing and only opens or closes brackets.
    induction ts with
    | nil => exact fun _ _ _ => rfl
    | cons t ts ih =>
      intro hwords opened rest
      have ht : t ≠ .word name := by
        rintro rfl
        exact hwords name List.mem_cons_self rfl
      rw [List.cons_append, namedValues_cons_of_ne ht,
        ih fun w hw => hwords w (List.mem_cons_of_mem _ hw)]
      rfl
  obtain ⟨ts, hreads, hclosed, hwords⟩ := h
  refine ⟨ts, hreads, fun opened rest => ?_⟩
  rw [hnone ts hwords, hclosed]
  rfl

/-- The words of a phrase that stands alone have the property `p`. -/
theorem exists_tokens (h : Phrase p cs) : ∃ ts, tokens? cs = some ts ∧ ∀ w, .word w ∈ ts → p w := by
  obtain ⟨ts, hreads, -, hwords⟩ := h
  exact ⟨ts, hreads.tokens?_eq, hwords⟩

end Phrase

end ObjectStore.GraphQL
