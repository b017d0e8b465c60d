import Mathlib
import ObjectStore.Proofs.Query.BlockParts
import ObjectStore.Proofs.Query.FieldForms

/-! # Default fields in a text of selections

Default fields may be given in a text of selections, some of which hold others. Of these the text of
a query holds what is left once the identifier blocks are dropped, and the identifier at its end.
The blocks are dropped at every depth, and with the key at the end of a longer name. So the
selections are sent as they were given, those of the identifier aside, exactly if there is no other
block in them.

* `Selection.left`: what is left of a selection, `Selection.Cut`: the selections of which something
  is dropped.
* `Selection.dropBlocks_partsAll_append`: it is what is left of their parts.
* `Query.compile_defaultText`: what is sent for a text of selections. -/

namespace ObjectStore

open GraphQL (Head Part Selection)

/-! ## Blocks in selections -/

namespace GraphQL

open Fields (beforeKey? blockParts dropBlocks idName metadataKey nameParts)

variable {head : Head} {inner ss : List Selection} {s : Selection} {k : List Char}
  {p : Part} {ps qs rest : List Part}

/-- What is left of a head if the selection of one field `k` behind it is dropped with its key. -/
def Head.cut? (k : List Char) : Head → Option (List Part)
  | name w => (beforeKey? w k).map nameParts
  | inline => none
  | inlineOn type => (beforeKey? type k).map fun x => .spread :: .name ['o', 'n'] :: nameParts x

namespace Selection

/-- The selection of the identifier. -/
def identifier : Selection := .braced (.name metadataKey.toList) [.field idName]

def isIdentifier : Selection → Bool
  | braced (.name w) [field k] => w == metadataKey.toList && k == idName
  | _ => false

/-- What is left of `head` and its braces if these are dropped. -/
def cut? (head : Head) : List Selection → Option (List Part)
  | [field k] => head.cut? k
  | _ => none

mutual

/-- The parts of a selection that are left of it once the identifier blocks are gone. -/
def left : Selection → List Part
  | field w => [.name w]
  | braced head inner =>
    match cut? head inner with
    | some ps => ps
    | none => head.parts ++ .opening :: (leftAll inner ++ [.closing])

/-- What is left of some selections. -/
def leftAll : List Selection → List Part
  | [] => []
  | s :: ss => left s ++ leftAll ss

end

/-- That something is dropped of a selection: it is the identifier's, or one like it behind a longer
field name or a type that ends with the key, or something is dropped of a selection inside it. -/
inductive Cut : Selection → Prop
  | field (x : List Char) : Cut (braced (.name (x ++ metadataKey.toList)) [.field idName])
  | fragment (x : List Char) : Cut (braced (.inlineOn (x ++ metadataKey.toList)) [.field idName])
  | inside {head : Head} {inner : List Selection} {s : Selection} (hs : s ∈ inner) (h : s.Cut) :
      Cut (braced head inner)

/-- `s.isIdentifier = true ↔ s = identifier`. -/
theorem isIdentifier_iff : s.isIdentifier = true ↔ s = identifier := by
  constructor
  · intro h
    rw [isIdentifier.eq_def] at h
    split at h
    · rw [Bool.and_eq_true, beq_iff_eq, beq_iff_eq] at h
      rw [h.1, h.2, identifier]
    · cases h
  · rintro rfl
    simp [identifier, isIdentifier]

/-- `identifier.parts = blockParts []`: the identifier is a block with nothing before its key. -/
theorem identifier_parts : identifier.parts = blockParts [] := rfl

/-- `cut? head inner = some ps`: selections in braces that are dropped are the identifier. -/
theorem cut?_eq_some (h : cut? head inner = some ps) :
    ∃ x, inner = [.field idName] ∧
      ((head = .name (x ++ metadataKey.toList) ∧ ps = nameParts x) ∨
        (head = .inlineOn (x ++ metadataKey.toList) ∧
          ps = .spread :: .name ['o', 'n'] :: nameParts x)) := by
  rw [cut?.eq_def] at h
  split at h
  · cases head with
    | name w =>
      obtain ⟨x, hx, rfl⟩ := Option.map_eq_some_iff.mp h
      obtain ⟨rfl, rfl⟩ := Fields.beforeKey?_eq_some_iff.mp hx
      exact ⟨x, rfl, .inl ⟨rfl, rfl⟩⟩
    | inline => cases h
    | inlineOn type =>
      obtain ⟨x, hx, rfl⟩ := Option.map_eq_some_iff.mp h
      obtain ⟨rfl, rfl⟩ := Fields.beforeKey?_eq_some_iff.mp hx
      exact ⟨x, rfl, .inr ⟨rfl, rfl⟩⟩
  · cases h

/-- `cut?`: of a field name that ends with the key, what stands before the key is left. -/
theorem cut?_name (x : List Char) :
    cut? (.name (x ++ metadataKey.toList)) [.field idName] = some (nameParts x) := by
  rw [cut?, Head.cut?, Fields.beforeKey?_eq_some_iff.mpr ⟨rfl, rfl⟩]
  rfl

/-- `cut?`: of a fragment whose type ends with the key, the spread, the word `on` and the rest of
the type are left. -/
theorem cut?_inlineOn (x : List Char) :
    cut? (.inlineOn (x ++ metadataKey.toList)) [.field idName] =
      some (.spread :: .name ['o', 'n'] :: nameParts x) := by
  rw [cut?, Head.cut?, Fields.beforeKey?_eq_some_iff.mpr ⟨rfl, rfl⟩]
  rfl

/-! ### Parts of selections without their blocks -/

/-- `s.parts`: a selection begins with a name or a spread. -/
theorem exists_parts_eq_cons (s : Selection) :
    ∃ p ps, s.parts = p :: ps ∧ p ≠ .opening ∧ p ≠ .closing := by
  cases s with
  | field w => exact ⟨_, _, rfl, nofun, nofun⟩
  | braced head inner => cases head <;> exact ⟨_, _, rfl, nofun, nofun⟩

/-- Braces that hold one name hold one field. -/
theorem eq_field_of_partsAll (h : partsAll inner ++ .closing :: rest = .name k :: .closing :: qs) :
    inner = [.field k] := by
  cases inner with
  | nil => cases h
  | cons s ss =>
    rw [partsAll] at h
    cases s with
    | braced head inner => cases head <;> cases h
    | field w =>
      cases ss with
      | nil =>
        cases h
        rfl
      | cons s ss =>
        -- A second selection would begin where the closing brace stands.
        obtain ⟨p, ps, hparts, -, hp⟩ := s.exists_parts_eq_cons
        rw [partsAll, hparts] at h
        cases h
        exact absurd rfl hp

/-- No block begins with the spread or the word `on` of a fragment. -/
theorem dropBlocks_inlineOn (type : List Char) (rest : List Part) :
    dropBlocks (.spread :: .name ['o', 'n'] :: .name type :: rest) =
      .spread :: .name ['o', 'n'] :: dropBlocks (.name type :: rest) := by
  have hon : ∀ qs, .name type :: rest ≠ .opening :: qs := nofun
  rw [Fields.dropBlocks_spread, Fields.dropBlocks_name_cons hon]

/-- `cut? head inner = none`: what keeps its braces keeps all that stands before them. -/
theorem dropBlocks_head_append (h : cut? head inner = none) (rest : List Part) :
    dropBlocks (head.parts ++ .opening :: (partsAll inner ++ .closing :: rest)) =
      head.parts ++ .opening :: dropBlocks (partsAll inner ++ .closing :: rest) := by
  -- The name before the braces would be dropped only together with them.
  have hname : ∀ w, (head = .name w ∨ head = .inlineOn w) →
      dropBlocks (.name w :: .opening :: (partsAll inner ++ .closing :: rest)) =
        .name w :: .opening :: dropBlocks (partsAll inner ++ .closing :: rest) := by
    intro w hw
    refine Fields.dropBlocks_cons fun x qs heq => ?_
    simp only [blockParts, List.cons_append, List.nil_append, List.cons.injEq, Part.name.injEq,
      true_and] at heq
    obtain ⟨rfl, heq⟩ := heq
    obtain rfl := eq_field_of_partsAll heq
    rcases hw with rfl | rfl
    · rw [cut?_name] at h
      cases h
    · rw [cut?_inlineOn] at h
      cases h
  cases head with
  | name w => exact hname w (.inl rfl)
  | inline => rfl
  | inlineOn type =>
    refine (dropBlocks_inlineOn type _).trans ?_
    exact congrArg (.spread :: .name ['o', 'n'] :: ·) (hname type (.inr rfl))

/-- Where the braces go with the key, `dropBlocks` leaves what `cut?` leaves. -/
theorem dropBlocks_cut_append (h : cut? head inner = some ps) (rest : List Part) :
    dropBlocks (head.parts ++ .opening :: (partsAll inner ++ .closing :: rest)) =
      ps ++ dropBlocks rest := by
  obtain ⟨x, rfl, ⟨rfl, rfl⟩ | ⟨rfl, rfl⟩⟩ := cut?_eq_some h
  · exact Fields.dropBlocks_blockParts x rest
  · refine (dropBlocks_inlineOn _ _).trans ?_
    exact congrArg (.spread :: .name ['o', 'n'] :: ·) (Fields.dropBlocks_blockParts x rest)

mutual

/-- `dropBlocks (s.parts ++ rest) = s.left ++ dropBlocks rest`: the blocks among the parts of a
selection are dropped one by one, if no braces follow it. -/
theorem dropBlocks_parts_append : ∀ (s : Selection) (rest : List Part),
    (∀ qs, rest ≠ .opening :: qs) → dropBlocks (s.parts ++ rest) = s.left ++ dropBlocks rest
  | field w, rest, hrest => by
    rw [parts, left]
    exact Fields.dropBlocks_name_cons hrest w
  | braced head inner, rest, hrest => by
    rw [parts, left, List.append_assoc, List.cons_append, List.append_assoc, List.singleton_append]
    cases hcut : cut? head inner with
    | some ps => exact dropBlocks_cut_append hcut rest
    | none =>
      rw [dropBlocks_head_append hcut, dropBlocks_partsAll_append inner (.closing :: rest) nofun,
        Fields.dropBlocks_closing]
      simp only [List.append_assoc, List.cons_append, List.nil_append]

/-- `dropBlocks` leaves `leftAll ss` of the parts of `ss`, unless a brace follows them. -/
theorem dropBlocks_partsAll_append : ∀ (ss : List Selection) (rest : List Part),
    (∀ qs, rest ≠ .opening :: qs) →
      dropBlocks (partsAll ss ++ rest) = leftAll ss ++ dropBlocks rest
  | [], rest, _ => rfl
  | s :: ss, rest, hrest => by
    rw [partsAll, leftAll, List.append_assoc, dropBlocks_parts_append s,
      dropBlocks_partsAll_append ss rest hrest, List.append_assoc]
    intro qs heq
    cases ss with
    | nil => exact hrest qs heq
    | cons s ss =>
      obtain ⟨p, ps, hparts, hp, -⟩ := s.exists_parts_eq_cons
      rw [partsAll, hparts] at heq
      exact hp (List.head_eq_of_cons_eq heq)

end

/-! ### Selections that are cut -/

/-- `s.left = []`: nothing is left of the identifier alone. -/
theorem left_eq_nil_iff : s.left = [] ↔ s.isIdentifier = true := by
  rw [isIdentifier_iff]
  constructor
  · intro h
    cases s with
    | field w => cases h
    | braced head inner =>
      rw [left] at h
      split at h
      · next hcut =>
        subst h
        -- It is cut: the head ends with the identifier's name, and nothing may be before that.
        obtain ⟨x, rfl, ⟨rfl, hx⟩ | ⟨rfl, hx⟩⟩ := cut?_eq_some hcut
        · cases x with
          | nil => rfl
          | cons c x => cases hx
        · cases hx
      · simp at h
  · rintro rfl
    have hcut := cut?_name []
    rw [List.nil_append] at hcut
    rw [identifier, left, hcut]
    rfl

/-- `leftAll` does not change if the identifiers are taken out first. -/
theorem leftAll_filter (ss : List Selection) :
    leftAll (ss.filter fun s => !s.isIdentifier) = leftAll ss := by
  induction ss with
  | nil => rfl
  | cons s ss ih =>
    rw [leftAll, ← ih, List.filter_cons]
    cases hs : s.isIdentifier with
    | true => rw [left_eq_nil_iff.mpr hs]; rfl
    | false => rfl

/-- `leftAll ss = []`: nothing is left if there is nothing but identifiers. -/
theorem leftAll_eq_nil_iff : leftAll ss = [] ↔ ∀ s ∈ ss, s.isIdentifier = true := by
  induction ss with
  | nil => simp [leftAll]
  | cons s ss ih =>
    rw [leftAll, List.append_eq_nil_iff, left_eq_nil_iff, ih, List.forall_mem_cons]

/-- `(nameParts w).length ≤ 1`. -/
theorem length_nameParts_le (w : List Char) : (nameParts w).length ≤ 1 := by
  cases w with
  | nil => exact Nat.zero_le 1
  | cons c w => exact Nat.le_refl 1

mutual

/-- `s.left`: a selection is left as it is, unless it is cut. Then it gets shorter. -/
theorem left_cases : ∀ s : Selection,
    (s.Cut ∧ s.left.length < s.parts.length) ∨ (¬ s.Cut ∧ s.left = s.parts)
  | field w => .inr ⟨nofun, rfl⟩
  | braced head inner => by
    rw [left, parts]
    cases hcut : cut? head inner with
    | some ps =>
      left
      -- At most a piece of the name is left, and the braces at least are not.
      obtain ⟨x, rfl, ⟨rfl, rfl⟩ | ⟨rfl, rfl⟩⟩ := cut?_eq_some hcut
      · refine ⟨.field x, ?_⟩
        have := length_nameParts_le x
        simp [Head.parts]
        omega
      · refine ⟨.fragment x, ?_⟩
        have := length_nameParts_le x
        simp [Head.parts]
        omega
    | none =>
      rcases leftAll_cases inner with ⟨⟨s, hs, hsCut⟩, hlt⟩ | ⟨hnone, heq⟩
      · refine .inl ⟨.inside hs hsCut, ?_⟩
        simp only [List.length_append, List.length_cons]
        omega
      · refine .inr ⟨?_, by rw [heq]⟩
        intro h
        cases h with
        | field x =>
          rw [cut?_name] at hcut
          cases hcut
        | fragment x =>
          rw [cut?_inlineOn] at hcut
          cases hcut
        | inside hs h => exact hnone _ hs h

/-- `leftAll ss`: either something is dropped of one of the selections, and fewer parts are left, or
nothing is dropped of any, and all parts are left. -/
theorem leftAll_cases : ∀ ss : List Selection,
    ((∃ s ∈ ss, s.Cut) ∧ (leftAll ss).length < (partsAll ss).length) ∨
      ((∀ s ∈ ss, ¬ s.Cut) ∧ leftAll ss = partsAll ss)
  | [] => .inr ⟨nofun, rfl⟩
  | s :: ss => by
    rw [leftAll, partsAll, List.length_append, List.length_append]
    rcases left_cases s with ⟨hs, hlt⟩ | ⟨hs, heq⟩ <;>
      rcases leftAll_cases ss with ⟨⟨t, ht, htCut⟩, hlts⟩ | ⟨hss, heqs⟩
    · exact .inl ⟨⟨s, List.mem_cons_self, hs⟩, by omega⟩
    · exact .inl ⟨⟨s, List.mem_cons_self, hs⟩, by rw [heqs]; omega⟩
    · exact .inl ⟨⟨t, List.mem_cons_of_mem _ ht, htCut⟩, by rw [heq]; omega⟩
    · exact .inr ⟨List.forall_mem_cons.mpr ⟨hs, hss⟩, by rw [heq, heqs]⟩

end

/-- `leftAll ss` are the parts of the selections without identifiers among them, if nothing else is
cut. -/
theorem leftAll_eq_iff (ss : List Selection) :
    leftAll ss = partsAll (ss.filter fun s => !s.isIdentifier) ↔
      ∀ s ∈ ss, s.Cut → s.isIdentifier = true := by
  have hmem : (∀ s ∈ ss, s.Cut → s.isIdentifier = true) ↔
      ∀ s ∈ ss.filter fun s => !s.isIdentifier, ¬ s.Cut := by
    simp only [List.mem_filter, Bool.not_eq_true', and_imp, ← Bool.not_eq_true]
    exact forall₂_congr fun s _ => not_imp_not.symm.trans Iff.rfl
  -- Identifiers leave nothing; of the others something is missing as soon as one is cut.
  rw [hmem, ← leftAll_filter]
  rcases leftAll_cases (ss.filter fun s => !s.isIdentifier) with ⟨⟨s, hs, hcut⟩, hlt⟩ | ⟨hss, heq⟩
  · refine iff_of_false (fun heq => ?_) fun h => h s hs hcut
    rw [heq] at hlt
    exact Nat.lt_irrefl _ hlt
  · exact iff_of_true heq hss

end Selection

end GraphQL

/-! ## Compiled queries -/

namespace Query

open GraphQL.Selection (identifier leftAll partsAll)

variable {q : Query} {text : String} {sels : List Selection}

/-- `q.resolveFields`: with nothing selected, the words of the default text are the fields, and the
identifier is the last of them. -/
theorem resolveFields_defaultText (hdefaults : Fields.fieldsOf (.text text) = .ok q.defaults)
    (hselected : q.selected = []) : q.resolveFields =
      if Fields.splitText text = [] ∧ q.emptySelection = .raise then
        .error (.invalid (.nothingSelected q.collection))
      else .ok (Fields.splitText text ++ [Fields.idField]) := by
  have hfields : q.fields = (Fields.splitText text).map .text := by
    rw [fields, hselected]
    exact (Except.ok.inj hdefaults).symm
  have hown := Fields.ownFields_splitText text
  rw [Fields.ownFields_map_text, Except.ok.injEq] at hown
  rw [resolveFields_of_texts hfields, hown]

/-- A query whose default fields are a text of the selections `sels` is compiled to these, without
their identifier blocks, and the identifier after them. Only if nothing is left of them it may be
refused, and only if its filter has a number of too many digits it cannot be written. The selections
are sent as they are, those of the identifier aside, if no others are cut. -/
theorem compile_defaultText (hdefaults : Fields.fieldsOf (.text text) = .ok q.defaults)
    (hselected : q.selected = []) (hfilter : ∀ f ∈ q.filter, f.Built)
    (htext : GraphQL.parts? text.toList = some (partsAll sels)) :
    ((∀ s ∈ sels, s.isIdentifier = true) ∧ q.emptySelection = .raise →
        q.compile = .error (.invalid (.nothingSelected q.collection))) ∧
      (¬ ((∀ s ∈ sels, s.isIdentifier = true) ∧ q.emptySelection = .raise) →
        q.filter.all Filter.isWritable = false →
          q.compile = .error (.badValue .numberTooLong)) ∧
      (¬ ((∀ s ∈ sels, s.isIdentifier = true) ∧ q.emptySelection = .raise) →
        q.filter.all Filter.isWritable = true → ∃ c, q.compile = .ok c ∧
          c.text = String.ofList (q.textOf (q.filter.map Filter.whereChars) c.fields) ∧
          GraphQL.parts? (fieldText c.fields) = some (leftAll sels ++ identifier.parts) ∧
          (GraphQL.parts? (fieldText c.fields) =
              some (partsAll (sels.filter (fun s => !s.isIdentifier) ++ [identifier])) ↔
            ∀ s ∈ sels, s.Cut → s.isIdentifier = true)) := by
  have hspells := GraphQL.parts?_eq_some_iff.mp htext
  -- What is left of the text when the blocks are out are the parts of `leftAll sels`.
  have hleft : Fields.dropBlocks (partsAll sels) = leftAll sels := by
    have hdrop := Selection.dropBlocks_partsAll_append sels [] nofun
    rwa [List.append_nil, Fields.dropBlocks_nil, List.append_nil] at hdrop
  have hempty : Fields.splitText text = [] ↔ ∀ s ∈ sels, s.isIdentifier = true := by
    rw [Fields.splitText_eq_nil_iff hspells, hleft, Selection.leftAll_eq_nil_iff]
  have hresolve := resolveFields_defaultText hdefaults hselected
  rw [← hempty]
  refine ⟨fun hrefused => ?_, fun hsent hunwritable => ?_, fun hsent hwritable => ?_⟩
  · -- Nothing is left, and that is not allowed.
    rw [compile, hresolve, if_pos hrefused]
    rfl
  · rw [if_neg hsent] at hresolve
    -- A number of the filter cannot be written.
    obtain ⟨c, -, hc⟩ := compile_of_resolveFields hfilter hresolve
    rw [hc, hunwritable]
    rfl
  · rw [if_neg hsent] at hresolve
    obtain ⟨c, hfields, hc⟩ := compile_of_resolveFields hfilter hresolve
    -- It is compiled, and what is left can be read back from its text.
    rw [hwritable, writtenIf_true] at hc
    obtain ⟨-, -, -, -, htextOf⟩ := exists_of_compile_eq_ok hc
    have hparts : GraphQL.parts? (fieldText c.fields) =
        some (leftAll sels ++ identifier.parts) := by
      rw [hfields, GraphQL.parts?_eq_some_iff, ← hleft, Selection.identifier_parts]
      exact Fields.spells_fieldText_splitText hspells
    refine ⟨c, hc, htextOf, hparts, ?_⟩
    rw [hparts, Option.some.injEq, Selection.partsAll_append, partsAll, partsAll, List.append_nil,
      List.append_cancel_right_eq, Selection.leftAll_eq_iff]

/-- A query for ten books, whose default fields are those of `text`. -/
def booksWith (text : String) : Query :=
  ⟨"Book", none, (Fields.splitText text).map .text, .idOnly, [], none, some 10⟩

/-- A selection with another one inside, the identifier, and a fragment. -/
def nestedSelections : List Selection :=
  [.braced (.name "author".toList)
      [.field "name".toList, .braced (.name "born".toList) [.field "year".toList]],
    identifier, .braced (.inlineOn "Novel".toList) [.field "genre".toList]]

/-- The selections `nestedSelections` in a text, with blanks of several kinds. -/
def nestedText : String :=
  "author\x7bname born \x7b year\x7d\x7d\n_additional\t\x7bid\x7d ...on Novel\x7b\tgenre\x7d"

/-- The fields of a query with `nestedText` keep the selection inside another and the fragment. -/
theorem compile_defaultText_nested :
    ∃ c, (booksWith nestedText).compile = .ok c ∧
      GraphQL.parts? (fieldText c.fields) =
        GraphQL.parts? ("author \x7b name born \x7b year \x7d \x7d ... on Novel \x7b genre \x7d " ++
          "_additional \x7b id \x7d").toList := by
  have htext : GraphQL.parts? nestedText.toList = some (partsAll nestedSelections) := by decide
  have huncut : ∀ s ∈ nestedSelections, s.Cut → s.isIdentifier = true :=
    (Selection.leftAll_eq_iff _).mp (by decide)
  obtain ⟨c, hc, -, -, hparts⟩ := (compile_defaultText (q := booksWith nestedText) rfl rfl
    (fun _ h => nomatch h) htext).2.2 (fun h => nomatch h.2) rfl
  exact ⟨c, hc, (hparts.mpr huncut).trans (by decide)⟩

/-- The identifier of an author is not selected, although it is asked for. -/
theorem compile_nestedIdentifier :
    ∃ c, (booksWith "author \x7b _additional \x7b id \x7d name \x7d").compile = .ok c ∧
      GraphQL.parts? (fieldText c.fields) ≠ GraphQL.parts?
        "author \x7b _additional \x7b id \x7d name \x7d _additional \x7b id \x7d".toList := by
  refine ⟨_, rfl, ?_⟩
  decide

end Query

end ObjectStore
