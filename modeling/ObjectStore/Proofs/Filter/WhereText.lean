import Mathlib
import ObjectStore.Filter.Wire
import ObjectStore.GraphQL.Literal
import ObjectStore.Proofs.Filter.Constructible

/-! # The text of a filter

What is written into a query for a filter, without the value that is sent in between: a leaf as its
path, its operator and its literal under the key of the literal's kind, an inner node as its
operator and its operands. A filter with a whole number of too many digits is not written.

* `Filter.whereText`: the literal of what is sent for a filter.
* `Filter.whereChars`: its characters, node by node.
* `literal_of_wire`: whatever is sent for a filter is written by its characters, if it can be
  written.
* `whereText_eq`: the two agree on well-formed filters, which can be sent. -/

namespace ObjectStore

/-! ## Results of writing -/

/-- What is written if it can be, by `writable`: a number of too many digits is the only
obstacle. -/
def writtenIf {α : Type} (writable : Bool) (x : α) : Except Failure α :=
  if writable then .ok x else .error (.badValue .numberTooLong)

section

variable {α β γ : Type} (b c : Bool) (x : α) (y : β)

/-- `writtenIf true x = .ok x`. -/
@[simp] theorem writtenIf_true : writtenIf true x = .ok x := rfl

/-- `writtenIf b x = .ok y` if `b` holds and `y` is `x`. -/
theorem writtenIf_eq_ok_iff {b : Bool} {x y : α} : writtenIf b x = .ok y ↔ b = true ∧ x = y := by
  cases b <;> simp [writtenIf]

/-- `(writtenIf b x).map f = writtenIf b (f x)`. -/
theorem map_writtenIf (f : α → β) : (writtenIf b x).map f = writtenIf b (f x) := by
  cases b <;> rfl

/-- `writtenIf (b && c)`: of two parts that are written in turn, both have to be written. -/
theorem bind_writtenIf (f : α → β → γ) :
    (do let p ← writtenIf b x; let q ← writtenIf c y; .ok (f p q)) =
      writtenIf (b && c) (f x y) := by
  cases b <;> cases c <;> rfl

end

/-! ## Characters of operands -/

/-- The characters of a literal in a query. -/
def Literal.whereChars : Literal → List Char
  | bool b => if b then "true".toList else "false".toList
  | int n => (toString n).toList
  | double x => GraphQL.doubleText x
  | text s => Text.literal s.toList
  | date t => Text.literal t.stamp

/-- The characters of an operand in a query. -/
def Operand.whereChars : Operand → List Char
  | single v => v.whereChars
  | many vs => '[' :: (GraphQL.commaJoin (vs.map Literal.whereChars) ++ [']'])

/-- `(many vs).tag = t`: the kind of a list is that of its literals. -/
theorem Operand.tag_many {vs : List Literal} {t : Tag} (hne : vs ≠ []) (ht : ∀ v ∈ vs, v.tag = t) :
    (many vs).tag = t := by
  cases vs with
  | nil => exact absurd rfl hne
  | cons v vs => exact ht v List.mem_cons_self

/-- `GraphQL.literal false v.wire = writtenIf v.isWritable v.whereChars`: the literal of a reading,
a text or a number is written by its characters. -/
theorem Literal.literal_wire (v : Literal) :
    GraphQL.literal false v.wire = writtenIf v.isWritable v.whereChars := by
  cases v <;> simp [wire, Value.ofLiteral, GraphQL.literal, whereChars, isWritable, writtenIf]

/-- A list of literals is written by their characters, if all of them can be. -/
theorem Literal.literals_wire (vs : List Literal) : GraphQL.literals (vs.map Literal.wire) =
    writtenIf (vs.all isWritable) (vs.map Literal.whereChars) := by
  induction vs with
  | nil => rw [List.map_nil, GraphQL.literals, List.all_nil, writtenIf_true, List.map_nil]
  | cons v vs ih =>
    rw [List.map_cons, GraphQL.literals, v.literal_wire, ih, bind_writtenIf, List.all_cons,
      List.map_cons]

/-- `GraphQL.literal false v.wire`: an operand is written by its characters, if its literals can
be. -/
theorem Operand.literal_wire (v : Operand) :
    GraphQL.literal false v.wire = writtenIf (v.literals.all Literal.isWritable) v.whereChars := by
  cases v with
  | single v => rw [wire, v.literal_wire, literals, List.all_cons, List.all_nil, Bool.and_true]; rfl
  | many vs =>
    rw [wire, GraphQL.literal, Literal.literals_wire, map_writtenIf, literals, whereChars]

namespace Filter

/-! ## Characters of filters -/

/-- An entry of a mapping in a query, with `value` under `key`. -/
def fieldChars (key : String) (value : List Char) : List Char := key.toList ++ ':' :: ' ' :: value

/-- A leaf in a query, with `value` under `key`, the key of its kind. -/
def leafChars (property : String) (op : Operator) (key : Tag) (value : List Char) : List Char :=
  '\x7b' :: (GraphQL.commaJoin
    [fieldChars "path" ('[' :: (Text.literal property.toList ++ [']'])),
     fieldChars "operator" op.wireName.toList, fieldChars key.name value] ++ ['\x7d'])

/-- An inner node in a query, with the texts of its `operands`. -/
def joinChars (kind : Connective) (operands : List (List Char)) : List Char :=
  '\x7b' :: (GraphQL.commaJoin
    [fieldChars "operator" kind.wireName.toList,
     fieldChars "operands" ('[' :: (GraphQL.commaJoin operands ++ [']']))] ++ ['\x7d'])

mutual

/-- The characters of a filter in a query. -/
def whereChars : Filter → List Char
  | bare => []
  | comparison p op v => leafChars p op v.tag v.whereChars
  | nullCheck p b => leafChars p .isNull .boolean (Literal.bool b).whereChars
  | conjunction k fs => joinChars k (whereCharsAll fs)

/-- The characters of each of some filters. -/
def whereCharsAll : List Filter → List (List Char)
  | [] => []
  | f :: fs => whereChars f :: whereCharsAll fs

end

/-- `whereCharsAll fs = fs.map whereChars`. -/
theorem whereCharsAll_eq_map (fs : List Filter) : whereCharsAll fs = fs.map whereChars := by
  induction fs with
  | nil => rw [whereCharsAll, List.map_nil]
  | cons f fs ih => rw [whereCharsAll, ih, List.map_cons]

/-- The text of `f` in a query. -/
def whereText (f : Filter) : Except Failure String := do
  let v ← f.wire
  GraphQL.text v none

/-! ## What is sent and what is written -/

variable {b c : Bool} {f : Filter}

/-- `GraphQL.fields`: the entries of a mapping are written one by one. -/
theorem fields_cons (key : String) {v : Value} {es : Entries} {p : List Char}
    {ps : List (List Char)} (h : GraphQL.literal (GraphQL.isEnumKey (.text key)) v = writtenIf b p)
    (hs : GraphQL.fields es = writtenIf c ps) :
    GraphQL.fields ((.text key, v) :: es) = writtenIf (b && c) (fieldChars key p :: ps) := by
  rw [GraphQL.fields, GraphQL.keyText_text, h, hs]
  exact bind_writtenIf b c p ps fun p ps => fieldChars key p :: ps

/-- A text is always written, bare where a member of an enumeration stands. -/
theorem literal_text (s : String) (isEnum : Bool) :
    GraphQL.literal isEnum (.text s) =
      writtenIf true (if isEnum then s.toList else Text.literal s.toList) := by
  rw [GraphQL.literal, writtenIf_true]

/-- `leafEntries`: a leaf is written as its parts are. -/
theorem literal_leafEntries (property : String) (op : Operator) (key : Tag) {value : Value}
    {chars : List Char} (h : GraphQL.literal false value = writtenIf b chars) :
    GraphQL.literal false (.dict (leafEntries property op key value)) =
      writtenIf b (leafChars property op key chars) := by
  have hkey : GraphQL.isEnumKey (.text key.name) = false := by cases key <;> decide
  have hpath : GraphQL.literal false (.list [.text property]) =
      writtenIf true ('[' :: (Text.literal property.toList ++ [']'])) := by
    rw [GraphQL.literal, GraphQL.literals, literal_text, GraphQL.literals]
    rfl
  have hnil : GraphQL.fields [] = writtenIf true [] := by rw [GraphQL.fields, writtenIf_true]
  -- Only the text under the key of the operator stands bare.
  have hfields := fields_cons "path" hpath
    (fields_cons "operator" (literal_text op.wireName true)
      (fields_cons key.name (by rw [hkey]; exact h) hnil))
  rw [leafEntries, GraphQL.literal, hfields, map_writtenIf, Bool.true_and, Bool.true_and,
    Bool.and_true]
  rfl

/-- An inner node is written as its operands are. -/
theorem literal_joinEntries (kind : Connective) {items : List Value} {chars : List (List Char)}
    (h : GraphQL.literals items = writtenIf b chars) :
    GraphQL.literal false
        (.dict [(.text "operator", .text kind.wireName), (.text "operands", .list items)]) =
      writtenIf b (joinChars kind chars) := by
  have hoperands : GraphQL.literal false (.list items) =
      writtenIf b ('[' :: (GraphQL.commaJoin chars ++ [']'])) := by
    rw [GraphQL.literal, h, map_writtenIf]
  have hnil : GraphQL.fields [] = writtenIf true [] := by rw [GraphQL.fields, writtenIf_true]
  have hfields := fields_cons "operator" (literal_text kind.wireName true)
    (fields_cons "operands" hoperands hnil)
  rw [GraphQL.literal, hfields, map_writtenIf, Bool.true_and, Bool.and_true]
  rfl

mutual

/-- `GraphQL.literal false v = writtenIf f.isWritable f.whereChars` for what is sent for `f`: it is
written by the characters of the filter. -/
theorem literal_of_wire : ∀ (f : Filter) {v : Value}, f.wire = .ok v →
    GraphQL.literal false v = writtenIf f.isWritable f.whereChars
  | bare, v, h => by rw [wire] at h; cases h
  | comparison p op w, v, h => by
    rw [wire, Except.ok.injEq] at h
    rw [← h, whereChars, isWritable]
    exact literal_leafEntries p op w.tag w.literal_wire
  | nullCheck p b, v, h => by
    rw [wire, Except.ok.injEq] at h
    rw [← h, whereChars]
    exact literal_leafEntries p .isNull .boolean (Literal.literal_wire (.bool b))
  | conjunction k fs, v, h => by
    rw [wire] at h
    -- All operands are sent, each as the mutual lemma below says.
    cases hitems : wireAll fs with
    | error e => rw [hitems] at h; cases h
    | ok items =>
      rw [hitems] at h
      cases h
      rw [whereChars, isWritable]
      exact literal_joinEntries k (literals_of_wireAll fs hitems)

/-- What is sent for each of some filters is written by their characters. -/
theorem literals_of_wireAll : ∀ (fs : List Filter) {items : List Value}, wireAll fs = .ok items →
    GraphQL.literals items = writtenIf (allWritable fs) (whereCharsAll fs)
  | [], items, h => by
    rw [wireAll, Except.ok.injEq] at h
    rw [← h, whereCharsAll, GraphQL.literals, allWritable, writtenIf_true]
  | f :: fs, items, h => by
    rw [wireAll] at h
    cases hitem : f.wire with
    | error e => rw [hitem] at h; cases h
    | ok item =>
      cases hitems : wireAll fs with
      | error e => rw [hitem, hitems] at h; cases h
      | ok rest =>
        rw [hitem, hitems] at h
        cases h
        rw [GraphQL.literals, literal_of_wire f hitem, literals_of_wireAll fs hitems, whereCharsAll,
          allWritable]
        exact bind_writtenIf _ _ _ _ List.cons

end

/-- Filters that are each sent are sent one after the other. -/
theorem exists_wireAll {fs : List Filter} (h : ∀ f ∈ fs, ∃ v, f.wire = .ok v) :
    ∃ items, wireAll fs = .ok items := by
  induction fs with
  | nil => exact ⟨[], by rw [wireAll]⟩
  | cons f fs ih =>
    obtain ⟨⟨v, hwire⟩, hfs⟩ := List.forall_mem_cons.mp h
    obtain ⟨items, hitems⟩ := ih hfs
    refine ⟨v :: items, ?_⟩
    rw [wireAll, hwire, hitems]
    rfl

/-- `f.wire = .ok v`: A well-formed filter can be sent. -/
theorem WellFormed.exists_wire (hf : f.WellFormed) : ∃ v, f.wire = .ok v := by
  induction hf with
  | comparison property hop hv => exact ⟨_, by rw [wire]⟩
  | nullCheck property isNull => exact ⟨_, by rw [wire]⟩
  | conjunction kind hne hfs ih =>
    obtain ⟨items, hitems⟩ := exists_wireAll ih
    exact ⟨_, by rw [wire, hitems]; rfl⟩

/-- `GraphQL.text v none = writtenIf f.isWritable f.whereChars`: the text of what is sent for a
filter, if its numbers can be written, are its characters. -/
theorem text_of_wire {v : Value} (h : f.wire = .ok v) :
    GraphQL.text v none = writtenIf f.isWritable (String.ofList f.whereChars) := by
  show (GraphQL.literal false v).map String.ofList = _
  rw [f.literal_of_wire h, map_writtenIf]

/-- `f.whereText = writtenIf f.isWritable (String.ofList f.whereChars)` for a well-formed filter. -/
theorem whereText_eq (hf : f.WellFormed) :
    f.whereText = writtenIf f.isWritable (String.ofList f.whereChars) := by
  obtain ⟨v, hwire⟩ := hf.exists_wire
  rw [whereText, hwire]
  exact text_of_wire hwire

end Filter

end ObjectStore
