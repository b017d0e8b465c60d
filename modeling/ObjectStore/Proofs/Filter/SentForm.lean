import Mathlib
import ObjectStore.Proofs.Filter.Built
import ObjectStore.Proofs.Filter.Words

/-! # The form in which filters are sent is typed

What is sent for a filter that was built, however deep it is nested, has the same shape at every
node. An inner node joins one operand at least. A leaf has a path, an operator and one value, under
the key that belongs to the kind of each of its literals; whether a property is null is asked with a
truth value, and nothing else is asked so. The text that the query carries for it can be read, and
nowhere in it stands a null or the name of a number that is not finite. But there is no text of a
filter with a whole number of too many digits.

* `Filter.SentAs`: the shape, node by node.
* `Filter.Built.exists_sentAs`: whatever is built is sent in this shape, and written if its numbers
  are.
* `Filter.not_written_longSize`: a filter that is built and not written. -/

namespace ObjectStore

open GraphQL (Phrase)

namespace Filter

/-- That a value is what a filter should be sent as. -/
inductive SentAs : Filter → Value → Prop
  | comparison (property : String) {op : Operator} {v : Operand} {key : Tag}
      (hop : op.wireName ≠ "IsNull") (hne : v.literals ≠ [])
      (hkey : ∀ l ∈ v.literals, l.tag = key) :
      SentAs (.comparison property op v)
        (.dict [(.text "path", .list [.text property]), (.text "operator", .text op.wireName),
          (.text key.name, v.wire)])
  | nullCheck (property : String) (isNull : Bool) :
      SentAs (.nullCheck property isNull)
        (.dict [(.text "path", .list [.text property]), (.text "operator", .text "IsNull"),
          (.text "valueBoolean", .bool isNull)])
  | conjunction (kind : Connective) {fs : List Filter} {operands : List Value}
      (hne : operands ≠ []) (hoperands : List.Forall₂ SentAs fs operands) :
      SentAs (.conjunction kind fs)
        (.dict [(.text "operator", .text kind.wireName), (.text "operands", .list operands)])

/-! ## The shape at every node -/

/-- `v.Fits op`: the literals of an operand that fits its operator are at least one, all of the
operand's kind. -/
theorem literals_of_fits {op : Operator} {v : Operand} (h : v.Fits op) :
    v.literals ≠ [] ∧ ∀ l ∈ v.literals, l.tag = v.tag := by
  cases h with
  | single => exact ⟨List.cons_ne_nil _ _, List.forall_mem_singleton.mpr rfl⟩
  | many tag hne htag hvs =>
    refine ⟨hne, fun l hl => ?_⟩
    rw [Operand.tag_many hne htag]
    exact htag l hl

/-- `wireAll fs`: filters that are each sent as they should be are sent so one after the other. -/
theorem exists_sentAs_all {fs : List Filter} (h : ∀ f ∈ fs, ∃ v, f.wire = .ok v ∧ f.SentAs v) :
    ∃ items, wireAll fs = .ok items ∧ List.Forall₂ SentAs fs items := by
  induction fs with
  | nil => exact ⟨[], by rw [wireAll], .nil⟩
  | cons f fs ih =>
    obtain ⟨v, hwire, hv⟩ := h f List.mem_cons_self
    obtain ⟨items, hwires, hitems⟩ := ih fun g hg => h g (List.mem_cons_of_mem _ hg)
    refine ⟨v :: items, ?_, .cons hv hitems⟩
    rw [wireAll, hwire, hwires]
    rfl

/-- `f.wire`: a well-formed filter is sent, and as it should be. -/
theorem WellFormed.sentAs {f : Filter} (hf : f.WellFormed) : ∃ v, f.wire = .ok v ∧ f.SentAs v := by
  induction hf with
  | @comparison property op v hop hv =>
    obtain ⟨hne, hkey⟩ := literals_of_fits hv
    have hname : op.wireName ≠ "IsNull" := fun h => hop (Operator.wireName_inj h)
    exact ⟨_, by rw [wire]; rfl, .comparison property hname hne hkey⟩
  | nullCheck property isNull => exact ⟨_, by rw [wire]; rfl, .nullCheck property isNull⟩
  | @conjunction kind fs hne hfs ih =>
    obtain ⟨items, hwires, hitems⟩ := exists_sentAs_all ih
    refine ⟨_, by rw [wire, hwires]; rfl, .conjunction kind ?_ hitems⟩
    rintro rfl
    exact hne (List.forall₂_nil_right_iff.mp hitems)

/-! ## Words that stand for no value -/

/-- The words by which `null` and the numbers that are not finite are written. -/
def unusableWords : List String := ["null", "NaN", "Infinity", "-Infinity"]

/-- The characters of a number are none of `unusableWords`. -/
theorem ne_unusable_of_isNumeralChar {cs : List Char}
    (h : ∀ c ∈ cs, Text.isNumeralChar c = true) : ∀ w ∈ unusableWords, cs ≠ w.toList := by
  rintro w hw rfl
  -- Each of them has a letter that stands in no number.
  have hletter : 'n' ∈ w.toList ∨ 'N' ∈ w.toList := by
    simp only [unusableWords, List.mem_cons, List.not_mem_nil, or_false] at hw
    rcases hw with rfl | rfl | rfl | rfl <;> simp
  rcases hletter with hn | hn <;> exact absurd (h _ hn) (by decide)

/-- `f.whereChars`: the text of a well-formed filter is a phrase without such words. -/
theorem WellFormed.phrase {f : Filter} (hf : f.WellFormed) :
    Phrase (fun cs => ∀ w ∈ unusableWords, cs ≠ w.toList) f.whereChars := by
  have hwords : ∀ v ∈ filterWords, ∀ w ∈ unusableWords, v.toList ≠ w.toList := by
    have hdisjoint : ∀ v ∈ filterWords, v ∉ unusableWords := by decide
    intro v hv w hw h
    exact hdisjoint v hv (String.toList_inj.1 h ▸ hw)
  refine phrase_whereChars hwords f fun l hl => ?_
  exact Literal.phrase_whereChars (hf.isFinite l hl) (by simp [unusableWords])
    fun _ => ne_unusable_of_isNumeralChar

/-! ## Filters that were built -/

/-- Whatever is built can be sent, by `f.wire`, and has its shape at every node. If its numbers can
be written, the query has a text for it, without a null and without a number that is not finite; if
one of them cannot, there is no text. -/
theorem Built.exists_sentAs {f : Filter} (hf : f.Built) :
    ∃ v, f.wire = .ok v ∧ f.SentAs v ∧
      (f.isWritable = true → ∃ text tokens, GraphQL.text v none = .ok text ∧
        GraphQL.tokens? text.toList = some tokens ∧ ∀ w ∈ unusableWords, .word w.toList ∉ tokens) ∧
      (f.isWritable = false → GraphQL.text v none = .error (.badValue .numberTooLong)) := by
  obtain ⟨v, hwire, hsent⟩ := hf.wellFormed.sentAs
  refine ⟨v, hwire, hsent, fun hwritable => ?_, fun hwritable => ?_⟩
  · obtain ⟨tokens, htokens, hwords⟩ := hf.wellFormed.phrase.exists_tokens
    refine ⟨String.ofList f.whereChars, tokens, ?_, ?_, fun w hw hmem => hwords _ hmem w hw rfl⟩
    · rw [text_of_wire hwire, hwritable, writtenIf_true]
    · rw [String.toList_ofList]
      exact htokens
  · rw [text_of_wire hwire, hwritable]
    rfl

/-- A membership test on a point in time. -/
def bornThen : Filter :=
  comparison "born" .containsAny (.many [.date ⟨⟨1815, 12, 10⟩, 12, 0, 0, 0, none, false⟩])

/-- The test `bornThen` joined by its sign with a criterion that asks for null. -/
def bornThenOrUnnamed : Filter := conjunction .or [bornThen, nullCheck "name" true]

/-- `bornThenOrUnnamed` is made by a condition on a property, by a criterion and by joining them. -/
theorem bornThenOrUnnamed_built : bornThenOrUnnamed.Built := by
  have hproperty : PropertyCondition.named (.text "born") = .ok ⟨"born"⟩ := rfl
  have hborn : PropertyCondition.call ⟨"born"⟩ "contains_any"
      [.list [.datetime ⟨⟨1815, 12, 10⟩, 12, 0, 0, 0, none, false⟩]] = .ok bornThen := by
    cbv
  have hunnamed : ofCriteria (.dict [(.text "name", .null)]) =
      .ok (some (nullCheck "name" true)) := rfl
  have hjoined : Connective.or.combine (.filter bornThen) (.filter (nullCheck "name" true)) =
      .ok (.filter bornThenOrUnnamed) := rfl
  refine .combine ?_ ?_ hjoined
  · rintro g ⟨⟩
    exact .property hproperty hborn
  · rintro g ⟨⟩
    exact .criteria hunnamed

/-- Both leaves are sent under the keys of their kinds. -/
theorem exists_sentAs_bornThenOrUnnamed :
    bornThenOrUnnamed.Built ∧ bornThenOrUnnamed.isWritable = true ∧
      ∃ v text tokens, bornThenOrUnnamed.wire = .ok v ∧ bornThenOrUnnamed.SentAs v ∧
        GraphQL.text v none = .ok text ∧ GraphQL.tokens? text.toList = some tokens ∧
          ∀ w ∈ unusableWords, .word w.toList ∉ tokens := by
  have hwritable : bornThenOrUnnamed.isWritable = true := by decide
  obtain ⟨v, hwire, hsent, hwritten, -⟩ := Built.exists_sentAs bornThenOrUnnamed_built
  obtain ⟨text, tokens, htext⟩ := hwritten hwritable
  exact ⟨bornThenOrUnnamed_built, hwritable, v, text, tokens, hwire, hsent, htext⟩

/-- A size that is equal to the first number with too many digits. -/
def longSize : Filter := comparison "size" .equal (.single (.int Text.firstUnwritten))

/-- The comparison `longSize` is made by its constructor and can be sent, but it is not written. -/
theorem not_written_longSize :
    longSize.Built ∧ ∃ v, longSize.wire = .ok v ∧
      GraphQL.text v none = .error (.badValue .numberTooLong) := by
  have hcompare : Filter.compare (.text "size") (.text Operator.equal.name)
      (.int Text.firstUnwritten) = .ok longSize := rfl
  have hbuilt : longSize.Built := .compare hcompare
  have hunwritable : longSize.isWritable = false := by
    simp [longSize, isWritable, Operand.literals, Literal.isWritable, Text.isWritable]
  obtain ⟨v, hwire⟩ := hbuilt.wellFormed.exists_wire
  refine ⟨hbuilt, v, hwire, ?_⟩
  rw [text_of_wire hwire, hunwritable]
  rfl

end Filter

end ObjectStore
