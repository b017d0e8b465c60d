import Mathlib
import ObjectStore.Text.Blank
import ObjectStore.Validate

/-! # Words of a text

The words of a text, read from the front: blanks before a word make no difference, and a word ends
at the first blank behind it.

* `words_blanks_append`, `words_word_append`: the words of a text by its first piece.
* `words_induction`: a text is blanks, or some blanks, a word and what follows them.
* `strip_eq_self`: a text without blanks at its ends is left as it is.
* `Validate.isBlank_of_isNameChar`: no blank stands in a name. -/

namespace ObjectStore.Text

variable {c : Char} {b w cs : List Char}

/-- That no word goes on with `cs`: it is empty or begins with a blank. -/
def EndsWord (cs : List Char) : Prop := ∀ c ∈ cs.head?, isBlank c = true

/-- `EndsWord (c :: cs)` for a blank `c`. -/
theorem EndsWord.cons (h : isBlank c = true) : EndsWord (c :: cs) := by
  rintro d ⟨⟩
  exact h

/-- `words (c :: cs) = words cs` for a blank `c`. -/
theorem words_cons_of_isBlank (h : isBlank c = true) (cs : List Char) :
    words (c :: cs) = words cs := by
  rw [words, cutWord, words]
  simp [h]

/-- `words (b ++ cs) = words cs`: blanks at the front make no difference. -/
theorem words_blanks_append (hb : allBlank b = true) (cs : List Char) :
    words (b ++ cs) = words cs := by
  induction b with
  | nil => rfl
  | cons c b ih =>
    rw [allBlank, List.all_cons, Bool.and_eq_true] at hb
    rw [List.cons_append, words_cons_of_isBlank hb.1, ih hb.2]

/-- `words b = []` for blanks `b`. -/
theorem words_of_allBlank (hb : allBlank b = true) : words b = [] := by
  rw [← List.append_nil b, words_blanks_append hb, words_nil]

/-- `cutWord (w ++ cs) = (w, words cs)` if the word ends before `cs`. -/
theorem cutWord_word_append (hw : ∀ c ∈ w, isBlank c = false) (hcs : EndsWord cs) :
    cutWord (w ++ cs) = (w, words cs) := by
  induction w with
  | nil =>
    cases cs with
    | nil => rfl
    | cons c cs =>
      have hc : isBlank c = true := hcs c rfl
      rw [words_cons_of_isBlank hc, List.nil_append, cutWord, words]
      simp [hc]
  | cons c w ih =>
    obtain ⟨hc, hw⟩ := List.forall_mem_cons.mp hw
    rw [List.cons_append, cutWord, ih hw]
    simp [hc]

/-- `words (w ++ cs) = w :: words cs`: A word at the front ends where a blank follows it. -/
theorem words_word_append (hne : w ≠ []) (hw : ∀ c ∈ w, isBlank c = false) (hcs : EndsWord cs) :
    words (w ++ cs) = w :: words cs := by
  rw [words, cutWord_word_append hw hcs]
  simp [hne]

/-- A text is blanks, or some blanks, a word and what follows them. -/
@[elab_as_elim]
theorem words_induction {motive : List Char → Prop}
    (blanks : ∀ b, allBlank b = true → motive b)
    (word : ∀ b w cs, allBlank b = true → w ≠ [] → (∀ c ∈ w, isBlank c = false) → EndsWord cs →
      motive cs → motive (b ++ (w ++ cs)))
    (cs : List Char) : motive cs := by
  induction hn : cs.length using Nat.strong_induction_on generalizing cs with
  | _ n ih =>
    have hb : allBlank (cs.takeWhile isBlank) = true := List.all_takeWhile
    have hcut := List.takeWhile_append_dropWhile (p := isBlank) (l := cs)
    cases hrest : cs.dropWhile isBlank with
    | nil =>
      rw [hrest, List.append_nil] at hcut
      exact hcut ▸ blanks _ hb
    | cons c rest =>
      -- The word goes on to the next blank.
      have hc : isBlank c = false := by
        have hhead := List.head?_dropWhile_not isBlank cs
        rw [hrest] at hhead
        exact hhead
      have hword := List.takeWhile_append_dropWhile (p := fun c => !isBlank c) (l := rest)
      rw [hrest, ← hword, ← List.cons_append] at hcut
      rw [← hcut]
      refine word _ _ _ hb (List.cons_ne_nil _ _) (List.forall_mem_cons.mpr ⟨hc, fun d hd => ?_⟩)
        (fun d hd => ?_) (ih _ ?_ _ rfl)
      · simpa using List.mem_takeWhile_imp hd
      · have hhead := List.head?_dropWhile_not (fun c => !isBlank c) rest
        rw [Option.mem_def.mp hd] at hhead
        simpa using hhead
      · have hlength := congrArg List.length hcut
        simp only [List.length_append, List.length_cons] at hlength
        omega

/-- `w ∈ words cs`: A word has no blanks, and stands in the text. -/
theorem of_mem_words (h : w ∈ words cs) : (∀ c ∈ w, isBlank c = false) ∧ w <:+: cs := by
  induction cs using words_induction with
  | blanks b hb =>
    rw [words_of_allBlank hb] at h
    cases h
  | word b v cs hb hne hv hcs ih =>
    rw [words_blanks_append hb, words_word_append hne hv hcs] at h
    rcases List.mem_cons.mp h with rfl | h
    · exact ⟨hv, b, cs, List.append_assoc _ _ _⟩
    · obtain ⟨hw, hinfix⟩ := ih h
      exact ⟨hw, hinfix.trans ((List.suffix_append v cs).trans (List.suffix_append b _)).isInfix⟩

/-- `words cs = []`: it is blanks that have no words. -/
theorem words_eq_nil_iff : words cs = [] ↔ allBlank cs = true := by
  refine ⟨fun h => ?_, words_of_allBlank⟩
  induction cs using words_induction with
  | blanks b hb => exact hb
  | word b w cs hb hne hw hcs ih =>
    rw [words_blanks_append hb, words_word_append hne hw hcs] at h
    cases h

/-! ## Texts without blanks at their ends -/

/-- `strip cs = cs` if `cs` neither begins nor ends with a blank. -/
theorem strip_eq_self (hhead : ∀ c ∈ cs.head?, isBlank c = false)
    (hlast : ∀ c ∈ cs.getLast?, isBlank c = false) : strip cs = cs := by
  have hdrop : ∀ {ds : List Char}, (∀ c ∈ ds.head?, isBlank c = false) →
      ds.dropWhile isBlank = ds := by
    intro ds hds
    cases ds with
    | nil => rfl
    | cons c ds => exact List.dropWhile_cons_of_neg (by simp [hds c rfl])
  rw [strip, hdrop hhead, hdrop (by rwa [List.head?_reverse]), List.reverse_reverse]

/-- `c ∈ strip cs`: what is left of a text without the blanks around it is of the text. -/
theorem mem_of_mem_strip (h : c ∈ strip cs) : c ∈ cs := by
  rw [strip, List.mem_reverse] at h
  have h := (List.dropWhile_suffix isBlank).mem h
  exact (List.dropWhile_suffix isBlank).mem (List.mem_reverse.mp h)

end ObjectStore.Text

/-! ## Names -/

namespace ObjectStore.Validate

variable {c : Char} {w : List Char}

/-- `isBlank c = false`: the characters of names are not blank. -/
theorem isBlank_of_isNameChar (h : isNameChar c = true) : Text.isBlank c = false := by
  rw [isNameChar, Bool.or_eq_true, beq_iff_eq] at h
  rcases h with h | rfl
  · simp only [Char.isAlphanum, Char.isAlpha, Char.isUpper, Char.isLower, Char.isDigit,
      Bool.or_eq_true, Bool.and_eq_true, decide_eq_true_eq, UInt32.le_iff_toNat_le, ge_iff_le] at h
    change ((65 ≤ c.toNat ∧ c.toNat ≤ 90) ∨ (97 ≤ c.toNat ∧ c.toNat ≤ 122)) ∨
      (48 ≤ c.toNat ∧ c.toNat ≤ 57) at h
    simp only [Text.isBlank, Bool.or_eq_false_iff, Bool.and_eq_false_iff, decide_eq_false_iff_not,
      beq_eq_false_iff_ne]
    omega
  · rfl

/-- `isNameChar c = false`: blanks are not characters of names. -/
theorem isNameChar_of_isBlank (h : Text.isBlank c = true) : isNameChar c = false := by
  by_contra hname
  rw [Bool.not_eq_false] at hname
  rw [isBlank_of_isNameChar hname] at h
  cases h

/-- No name goes on with blanks before a character that stands in none. -/
theorem isNameChar_head_blanks_append {a cs : List Char} (ha : Text.allBlank a = true)
    (hc : isNameChar c = false) : ∀ d ∈ (a ++ c :: cs).head?, isNameChar d = false := by
  cases a with
  | nil =>
    rintro _ ⟨⟩
    exact hc
  | cons b a =>
    rintro _ ⟨⟩
    exact isNameChar_of_isBlank (List.all_eq_true.mp ha b List.mem_cons_self)

/-- `isName w = true`: A name has characters, all of which are characters of names. -/
theorem isNameChar_of_isName (h : isName w = true) : w ≠ [] ∧ ∀ c ∈ w, isNameChar c = true := by
  cases w with
  | nil => cases h
  | cons c w =>
    rw [isName, Bool.and_eq_true, List.all_eq_true] at h
    refine ⟨List.cons_ne_nil _ _, List.forall_mem_cons.mpr ⟨?_, h.2⟩⟩
    have hc := h.1
    simp only [isNameStart, Bool.or_eq_true] at hc
    simp only [isNameChar, Char.isAlphanum, Bool.or_eq_true]
    exact hc.imp .inl id

end ObjectStore.Validate
