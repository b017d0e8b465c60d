import Mathlib
import ObjectStore.Proofs.Filter.WhereText
import ObjectStore.Proofs.GraphQL.Phrase
import ObjectStore.Proofs.Number.DecimalText

/-! # The words of a filter's text

The text of a filter is a phrase of the query language. Its words are the keys and the operators of
its nodes, which are the same for every filter, and the words of its literals: a truth value or a
number for each literal that is written bare.

* `filterWords`: the keys and the operators.
* `Filter.literals`: the literals in the leaves of a filter.
* `Filter.phrase_whereChars`: the words of every filter, well-formed or not. -/

namespace ObjectStore

open GraphQL (Phrase isWordChar)

/-- The keys and the operators that filters are written with. -/
def filterWords : List String :=
  ["path", "operator", "operands", "valueBoolean", "valueInt", "valueNumber", "valueDate",
    "valueText"] ++ Operator.all.map Operator.wireName ++ Connective.all.map Connective.wireName

/-- The key of each kind of literals is among `filterWords`. -/
theorem Tag.name_mem_filterWords (key : Tag) : key.name ∈ filterWords := by
  cases key <;> decide

/-- The name of each operator is among `filterWords`. -/
theorem Operator.wireName_mem_filterWords (op : Operator) : op.wireName ∈ filterWords := by
  cases op <;> decide

/-- The name of each connective is among `filterWords`. -/
theorem Connective.wireName_mem_filterWords (kind : Connective) : kind.wireName ∈ filterWords := by
  cases kind <;> decide

/-- Each of `filterWords` is a word of the query language. -/
theorem isWord_of_mem_filterWords {w : String} (h : w ∈ filterWords) :
    w.toList ≠ [] ∧ ∀ c ∈ w.toList, isWordChar c = true := by
  have hall : ∀ w ∈ filterWords, w.toList ≠ [] ∧ ∀ c ∈ w.toList, isWordChar c = true := by
    simp [filterWords, Operator.all, Operator.wireName, Connective.all, Connective.wireName,
      isWordChar]
  exact hall w h

variable {p : List Char → Prop}

/-! ## Literals and operands -/

/-- `Phrase p v.whereChars`: A finite literal has a truth value or a number for a word, or none. -/
theorem Literal.phrase_whereChars {v : Literal} (hv : v.IsFinite)
    (htruth : p "true".toList ∧ p "false".toList)
    (hnumeral : ∀ cs, (∀ c ∈ cs, Text.isNumeralChar c = true) → p cs) :
    Phrase p v.whereChars := by
  cases v with
  | bool b =>
    cases b
    · exact .word (by simp [whereChars, isWordChar]) htruth.2
    · exact .word (by simp [whereChars, isWordChar]) htruth.1
  | int n =>
    have hn := Text.isNumeralChar_toString_int n
    exact .numeral hn (hnumeral _ hn)
  | double x =>
    have htext : GraphQL.doubleText x = x.text.toList := by
      cases x <;> first | rfl | cases hv
    have hx := Double.isNumeralChar_text hv
    rw [whereChars, htext]
    exact .numeral hx (hnumeral _ hx)
  | text s => exact .literal _
  | date t => exact .literal _

/-- `Phrase p v.whereChars`: an operand is a phrase if its literals are. -/
theorem Operand.phrase_whereChars {v : Operand} (h : ∀ l ∈ v.literals, Phrase p l.whereChars) :
    Phrase p v.whereChars := by
  cases v with
  | single v => exact h v List.mem_cons_self
  | many vs =>
    refine (Phrase.commaJoin fun piece hpiece => ?_).bracketed (by decide)
    obtain ⟨v, hv, rfl⟩ := List.mem_map.mp hpiece
    exact h v hv

/-! ## Filters -/

namespace Filter

mutual

/-- The literals in the leaves of a filter. -/
def literals : Filter → List Literal
  | bare => []
  | comparison _ _ v => v.literals
  | nullCheck _ b => [.bool b]
  | conjunction _ fs => literalsAll fs

/-- The literals in the leaves of some filters. -/
def literalsAll : List Filter → List Literal
  | [] => []
  | f :: fs => literals f ++ literalsAll fs

end

/-- `literalsAll fs = fs.flatMap literals`. -/
theorem literalsAll_eq_flatMap (fs : List Filter) : literalsAll fs = fs.flatMap literals := by
  induction fs with
  | nil => rw [literalsAll, List.flatMap_nil]
  | cons f fs ih => rw [literalsAll, ih, List.flatMap_cons]

/-- `l.IsFinite`: the literals of well-formed filters are finite. -/
theorem WellFormed.isFinite {f : Filter} (hf : f.WellFormed) : ∀ l ∈ f.literals, l.IsFinite := by
  induction hf with
  | comparison property hop hv =>
    rw [literals]
    cases hv with
    | single _ _ hv => exact List.forall_mem_singleton.mpr hv
    | many _ _ _ hvs => exact hvs
  | nullCheck property isNull =>
    rw [literals]
    exact List.forall_mem_singleton.mpr trivial
  | conjunction kind hne hfs ih =>
    intro l hl
    rw [literals, literalsAll_eq_flatMap] at hl
    obtain ⟨f, hf, hl⟩ := List.mem_flatMap.mp hl
    exact ih f hf l hl

variable (hp : ∀ w ∈ filterWords, p w.toList)

include hp in

/-- `Phrase p (fieldChars key cs)`: an entry is a phrase if its value is. -/
theorem phrase_field {key : String} (hkey : key ∈ filterWords) {cs : List Char} (h : Phrase p cs) :
    Phrase p (fieldChars key cs) :=
  have hword := isWord_of_mem_filterWords hkey
  h.entry hword.1 hword.2 (hp key hkey)

include hp in

/-- `Phrase p w.toList` for `w` among `filterWords`. -/
theorem phrase_word {w : String} (hw : w ∈ filterWords) : Phrase p w.toList :=
  .word (isWord_of_mem_filterWords hw).2 (hp w hw)

include hp in

/-- `Phrase p (leafChars property op key value)`: A leaf is a phrase if its value is. -/
theorem phrase_leafChars (property : String) (op : Operator) (key : Tag) {value : List Char}
    (h : Phrase p value) : Phrase p (leafChars property op key value) := by
  have hpath : Phrase p ('[' :: (Text.literal property.toList ++ [']'])) :=
    (Phrase.literal _).bracketed (by decide)
  refine (Phrase.commaJoin fun piece hpiece => ?_).bracketed (by decide)
  simp only [List.mem_cons, List.not_mem_nil, or_false] at hpiece
  rcases hpiece with rfl | rfl | rfl
  · exact phrase_field hp (by decide) hpath
  · exact phrase_field hp (by decide) (phrase_word hp op.wireName_mem_filterWords)
  · exact phrase_field hp key.name_mem_filterWords h

include hp in

/-- `Phrase p (joinChars kind operands)`: an inner node is a phrase if its operands are. -/
theorem phrase_joinChars (kind : Connective) {operands : List (List Char)}
    (h : ∀ piece ∈ operands, Phrase p piece) : Phrase p (joinChars kind operands) := by
  have hoperands : Phrase p ('[' :: (GraphQL.commaJoin operands ++ [']'])) :=
    (Phrase.commaJoin h).bracketed (by decide)
  refine (Phrase.commaJoin fun piece hpiece => ?_).bracketed (by decide)
  simp only [List.mem_cons, List.not_mem_nil, or_false] at hpiece
  rcases hpiece with rfl | rfl
  · exact phrase_field hp (by decide) (phrase_word hp kind.wireName_mem_filterWords)
  · exact phrase_field hp (by decide) hoperands

mutual

/-- `Phrase p f.whereChars`: the characters of a filter are a phrase; its words are keys, operators
and words of literals. -/
theorem phrase_whereChars (hp : ∀ w ∈ filterWords, p w.toList) :
    ∀ f : Filter, (∀ l ∈ f.literals, Phrase p l.whereChars) → Phrase p f.whereChars
  | bare, _ => by rw [whereChars]; exact .nil
  | comparison property op v, h => by
    rw [literals] at h
    rw [whereChars]
    exact phrase_leafChars hp property op _ (Operand.phrase_whereChars h)
  | nullCheck property b, h => by
    rw [literals] at h
    rw [whereChars]
    exact phrase_leafChars hp property _ _ (h (.bool b) List.mem_cons_self)
  | conjunction k fs, h => by
    rw [literals] at h
    rw [whereChars]
    exact phrase_joinChars hp k (phrase_whereCharsAll hp fs h)

/-- `Filter.phrase_whereChars` for each of some filters. -/
theorem phrase_whereCharsAll (hp : ∀ w ∈ filterWords, p w.toList) :
    ∀ fs : List Filter, (∀ l ∈ literalsAll fs, Phrase p l.whereChars) →
      ∀ piece ∈ whereCharsAll fs, Phrase p piece
  | [], _ => by rw [whereCharsAll]; exact fun _ h => nomatch h
  | f :: fs, h => by
    rw [literalsAll] at h
    rw [whereCharsAll]
    exact List.forall_mem_cons.mpr
      ⟨phrase_whereChars hp f fun l hl => h l (List.mem_append_left _ hl),
        phrase_whereCharsAll hp fs fun l hl => h l (List.mem_append_right _ hl)⟩

end

end Filter

end ObjectStore
