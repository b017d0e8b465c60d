import Mathlib
import ObjectStore.Proofs.Except
import ObjectStore.Proofs.Query.IdBlocks
import ObjectStore.Query.Basic

/-! # Default fields in a text and in a list

The default fields of a query are given as the items of a list or as the words of a text. Where the
items are names and identifier blocks the two forms come to the same fields, whatever is asked for
besides. They part in one case: a text of nothing but blocks holds no fields at all for the policy
that refuses empty selections, while a list of them holds some.

* `Fields.Spaced`: some items written one after the other.
* `Fields.words_blankIdBlocks`: the fields of such a text are the items that are names.
* `Query.resolved`: what the fields of a query come to, given what it is made from.
* `Query.resolved_text_list`: when the two forms of default fields come to the same. -/

namespace ObjectStore

open Text (allBlank isBlank)

namespace Fields

variable {item w cs : List Char} {items : List (List Char)} {c : Char}

/-! ## Items in a text -/

/-- That `cs` can be given as a field: it is a name or an identifier block. -/
def Item (cs : List Char) : Prop := Validate.isName cs = true ∨ IdBlock cs

/-- Some items one after the other, with blanks between them and, at will, around them. -/
inductive Spaced : List (List Char) → List Char → Prop
  | nil {b : List Char} (hb : allBlank b = true) : Spaced [] b
  | cons {item b cs : List Char} {items : List (List Char)} (hb : allBlank b = true)
      (hcs : Text.EndsWord cs) (h : Spaced items cs) : Spaced (item :: items) (b ++ (item ++ cs))

/-- `Validate.isName item = false`: A brace stands in a block, and so no block is a name. -/
theorem IdBlock.isName_eq_false (h : IdBlock item) : Validate.isName item = false := by
  obtain ⟨ds, ⟨a, b, c, -, -, -, rfl⟩, rfl⟩ := h
  by_contra hname
  rw [Bool.not_eq_false] at hname
  exact absurd ((Validate.isNameChar_of_isName hname).2 '\x7b' (by simp)) (by decide)

/-- `(!isIdBlock item) = Validate.isName item`: the fields that are no blocks are the names. -/
theorem not_isIdBlock_eq_isName (h : Item item) : (!isIdBlock item) = Validate.isName item := by
  rcases h with h | h
  · rw [h, Bool.not_eq_true', ← Bool.not_eq_true, isIdBlock_iff]
    rintro ⟨ds, ⟨a, b, c, -, -, -, rfl⟩, hstrip⟩
    have hbrace : '\x7b' ∈ item := Text.mem_of_mem_strip (by rw [hstrip]; simp)
    exact absurd ((Validate.isNameChar_of_isName h).2 _ hbrace) (by decide)
  · rw [h.isName_eq_false, isIdBlock_iff.mpr (h.strip_eq.symm ▸ h)]
    rfl

/-- An item begins with a character of names. -/
theorem Item.exists_eq_cons (h : Item item) :
    ∃ c cs, item = c :: cs ∧ Validate.isNameChar c = true := by
  rcases h with h | h
  · obtain ⟨hne, hname⟩ := Validate.isNameChar_of_isName h
    obtain ⟨c, cs, rfl⟩ := List.exists_cons_of_ne_nil hne
    exact ⟨c, cs, rfl, hname c List.mem_cons_self⟩
  · obtain ⟨cs, rfl⟩ := h.exists_eq_cons
    exact ⟨'_', cs, rfl, rfl⟩

/-- No item begins with a brace, so that no name before some items is the key of a block. -/
theorem Spaced.not_bracedId (h : Spaced items cs) (hitems : ∀ item ∈ items, Item item)
    {ds rest : List Char} (hds : BracedId ds) : cs ≠ ds ++ rest := by
  obtain ⟨a, b, c, ha, -, -, rfl⟩ := hds
  rw [List.append_assoc, List.cons_append]
  intro heq
  have hblank : ∀ {x : List Char}, allBlank x = true → ∀ c ∈ x, isBlank c = true :=
    fun hx => List.all_eq_true.mp hx
  cases h with
  | nil hb =>
    have hbrace := hblank hb '\x7b' (by rw [heq]; simp)
    exact absurd hbrace (by decide)
  | cons hb hcs h =>
    obtain ⟨d, item, rfl, hd⟩ := (hitems _ List.mem_cons_self).exists_eq_cons
    obtain ⟨-, hrest⟩ := Text.append_inj_of_stop (hblank hb) (hblank ha)
      (by rintro _ ⟨⟩; exact Validate.isBlank_of_isNameChar hd) (by rintro _ ⟨⟩; rfl) heq
    rw [List.head_eq_of_cons_eq hrest] at hd
    exact absurd hd (by decide)

/-- `words (blankIdBlocks 0 cs) = items.filter Validate.isName`: the fields of a text of names and
blocks are the names. -/
theorem words_blankIdBlocks (h : Spaced items cs) (hitems : ∀ item ∈ items, Item item) :
    Text.words (blankIdBlocks 0 cs) = items.filter Validate.isName := by
  induction h with
  | @nil b hb =>
    have hblank := blankIdBlocks_blanks_append hb []
    rw [List.append_nil] at hblank
    rw [hblank, blankIdBlocks, List.append_nil, Text.words_of_allBlank hb]
    rfl
  | @cons item b cs items hb hcs h ih =>
    obtain ⟨hitem, hitems⟩ := List.forall_mem_cons.mp hitems
    rw [blankIdBlocks_blanks_append hb, Text.words_blanks_append hb]
    rcases hitem with hname | hblock
    · -- A name stays, as no block begins in it, and is a word, as a blank or the end is behind it.
      obtain ⟨hne, hchars⟩ := Validate.isNameChar_of_isName hname
      have hstop : ∀ c ∈ cs.head?, Validate.isNameChar c = false := fun c hc =>
        Validate.isNameChar_of_isBlank (hcs c hc)
      have hends : Text.EndsWord (blankIdBlocks 0 cs) := by
        rw [Text.EndsWord, head?_blankIdBlocks hstop]
        exact hcs
      have hclear := clear_of_name hchars hstop fun _ ds rest hds => h.not_bracedId hitems hds
      rw [blankIdBlocks_append hclear, Text.words_word_append hne
        (fun c hc => Validate.isBlank_of_isNameChar (hchars c hc)) hends,
        List.filter_cons_of_pos hname, ih hitems]
    · -- A block becomes a blank, and is no name.
      rw [blankIdBlocks_block_append hblock, Text.words_cons_of_isBlank rfl,
        List.filter_cons_of_neg (by rw [hblock.isName_eq_false]; exact Bool.false_ne_true),
        ih hitems]

/-- Those of `items` that are names. -/
def names (items : List String) : List String := items.filter fun s => Validate.isName s.toList

variable {items : List String} {text : String}

/-- `splitText text = names items` for a text of spaced items. -/
theorem splitText_of_spaced (h : Spaced (items.map String.toList) text.toList)
    (hitems : ∀ item ∈ items, Item item.toList) : splitText text = names items := by
  rw [splitText, words_blankIdBlocks h (by simpa using hitems), List.filter_map, List.map_map]
  simp [names, Function.comp_def]

/-- `(items.filter fun s => !isIdBlock s) = names items`: the items that are no blocks are the
names. -/
theorem filter_not_isIdBlock (hitems : ∀ item ∈ items, Item item.toList) :
    (items.filter fun s => !isIdBlock s.toList) = names items :=
  List.filter_congr fun item hitem => not_isIdBlock_eq_isName (hitems item hitem)

/-- `names (names items) = names items`. -/
theorem names_names (items : List String) : names (names items) = names items := by
  rw [names, names, List.filter_filter]
  simp

/-- `names items = []`: all items are blocks. -/
theorem names_eq_nil_iff (hitems : ∀ item ∈ items, Item item.toList) :
    names items = [] ↔ ∀ item ∈ items, IdBlock item.toList := by
  rw [names, List.filter_eq_nil_iff]
  refine forall₂_congr fun item hitem => ⟨(hitems item hitem).resolve_left, fun h => ?_⟩
  rw [h.isName_eq_false]
  exact Bool.false_ne_true

end Fields

/-! ## Queries with default fields of either form -/

namespace Query

open Fields (Item Spaced names)

/-- What the fields of a query come to, given `collection`, `tenant`, `defaults` and `policy`, from
which it is made, and the fields `asked` for. -/
def resolved (collection tenant defaults policy asked : Value) : Except Failure (List String) := do
  let q ← make collection tenant defaults policy
  let q ← q.selectFields asked
  q.resolveFields

variable {collection tenant defaults policy asked : Value} {fields : List Value} {q : Query}
  {items : List String} {text : String}

/-- `q.resolveFields`: fields that are texts are refused if there are none and the policy says
so. -/
theorem resolveFields_of_texts {ss : List String} (h : q.fields = ss.map .text) :
    q.resolveFields = if ss = [] ∧ q.emptySelection = .raise then
        .error (.invalid (.nothingSelected q.collection))
      else .ok ((ss.filter fun s => !Fields.isIdBlock s.toList) ++ [Fields.idField]) := by
  rw [resolveFields, h, Fields.resolve, Fields.ownFields_map_text]
  simp only [List.isEmpty_map, Bool.and_eq_true, List.isEmpty_iff, decide_eq_true_eq]
  rfl

/-- `resolved`: default fields that are let through play no part in what else a query is made
from. -/
theorem resolved_eq (h : Fields.fieldsOf defaults = .ok fields) :
    resolved collection tenant defaults policy asked = (do
      let q ← make collection tenant .null policy
      let chosen ← Fields.selectionOf asked
      { q with defaults := fields, selected := chosen : Query }.resolveFields) := by
  have hmake : make collection tenant defaults policy =
      (make collection tenant .null policy).map fun q => { q with defaults := fields } := by
    have hnull : Fields.fieldsOf .null = .ok [] := rfl
    simp only [make, h, hnull]
    cases (Validate.collectionName collection).mapError Failure.invalid with
    | error e => rfl
    | ok name =>
      cases (Validate.tenant tenant).mapError Failure.invalid with
      | error e => rfl
      | ok tenant => cases EmptySelection.ofValue policy <;> rfl
  rw [resolved, hmake]
  cases make collection tenant .null policy with
  | error e => rfl
  | ok q =>
    show (selectFields _ asked >>= _) = (Fields.selectionOf asked >>= _)
    rw [selectFields]
    cases Fields.selectionOf asked <;> rfl

/-- `q.resolveFields`: what a text of names and blocks comes to if nothing else is asked for. -/
theorem resolveFields_text (hitems : ∀ item ∈ items, Item item.toList)
    (hfields : q.fields = (names items).map .text) :
    q.resolveFields = if names items = [] ∧ q.emptySelection = .raise then
        .error (.invalid (.nothingSelected q.collection))
      else .ok (names items ++ [Fields.idField]) := by
  have hnames : ∀ item ∈ names items, Item item.toList := fun item h =>
    hitems item (List.mem_filter.mp h).1
  rw [resolveFields_of_texts hfields, Fields.filter_not_isIdBlock hnames, Fields.names_names]

/-- `q.resolveFields`: what a list of names and blocks comes to if nothing else is asked for. -/
theorem resolveFields_list (hitems : ∀ item ∈ items, Item item.toList)
    (hfields : q.fields = items.map .text) :
    q.resolveFields = if items = [] ∧ q.emptySelection = .raise then
        .error (.invalid (.nothingSelected q.collection))
      else .ok (names items ++ [Fields.idField]) := by
  rw [resolveFields_of_texts hfields, Fields.filter_not_isIdBlock hitems]

/-- That a query is given nothing but blocks, `items`, for default fields, that nothing else is
asked for, and that empty selections are refused. -/
structure BlocksOnly (collection tenant policy asked : Value) (items : List String) : Prop where
  policy : ∃ q, make collection tenant .null policy = .ok q ∧ q.emptySelection = .raise
  asked : Fields.selectionOf asked = .ok []
  nonempty : items ≠ []
  blocks : ∀ item ∈ items, Fields.IdBlock item.toList

section

variable (hitems : ∀ item ∈ items, Item item.toList)
  (htext : Spaced (items.map String.toList) text.toList)
include hitems htext

/-- `fieldsOf (.text text) = .ok ((names items).map .text)`: A text of items gives its names as
fields. -/
theorem fieldsOf_text : Fields.fieldsOf (.text text) = .ok ((names items).map .text) := by
  rw [Fields.fieldsOf, Fields.splitText_of_spaced htext hitems]

/-- `BlocksOnly`: given nothing but blocks, a list comes to the identifier alone, and a text is
refused. -/
theorem resolved_of_blocksOnly (h : BlocksOnly collection tenant policy asked items) :
    resolved collection tenant (.list (items.map .text)) policy asked = .ok [Fields.idField] ∧
      ∃ name, resolved collection tenant (.text text) policy asked =
        .error (.invalid (.nothingSelected name)) := by
  obtain ⟨⟨q, hq, hraise⟩, hasked, hne, hblocks⟩ := h
  have hnone := (Fields.names_eq_nil_iff hitems).mpr hblocks
  rw [resolved_eq rfl, resolved_eq (fieldsOf_text hitems htext), hq, hasked]
  constructor
  · refine (resolveFields_list hitems rfl).trans ?_
    rw [if_neg fun h => hne h.1, hnone, List.nil_append]
  · exact ⟨q.collection, (resolveFields_text hitems rfl).trans (if_pos ⟨hnone, hraise⟩)⟩

/-- `¬ BlocksOnly`: in all other cases a text comes to what the list of its items comes to. -/
theorem resolved_text_of_not_blocksOnly
    (h : ¬ BlocksOnly collection tenant policy asked items) :
    resolved collection tenant (.text text) policy asked =
      resolved collection tenant (.list (items.map .text)) policy asked := by
  rw [resolved_eq (fieldsOf_text hitems htext), resolved_eq rfl]
  cases hq : make collection tenant .null policy with
  | error e => rfl
  | ok q =>
    cases hasked : Fields.selectionOf asked with
    | error e => rfl
    | ok chosen =>
      cases chosen with
      -- Fields that are asked for are sent, whatever the default ones are.
      | cons s chosen => rfl
      | nil =>
        refine (resolveFields_text hitems rfl).trans ((resolveFields_list hitems rfl).trans ?_).symm
        by_cases hraise : q.emptySelection = .raise
        · have hnone : names items = [] ↔ items = [] := by
            refine ⟨fun hnone => ?_, fun hitems => by rw [hitems]; rfl⟩
            by_contra hne
            exact h ⟨⟨q, hq, hraise⟩, hasked, hne, (Fields.names_eq_nil_iff hitems).mp hnone⟩
          simp only [hnone]
        · rw [if_neg fun h => hraise h.2, if_neg fun h => hraise h.2]

/-- Default fields that are names and blocks come to the same, by `resolved`, as a text and as a
list, unless they are blocks only and empty selections are refused. Then the text is refused, and
the list is not. -/
theorem resolved_text_list (collection tenant policy asked : Value) :
    (resolved collection tenant (.text text) policy asked =
        resolved collection tenant (.list (items.map .text)) policy asked ↔
      ¬ BlocksOnly collection tenant policy asked items) ∧
    (BlocksOnly collection tenant policy asked items →
      resolved collection tenant (.list (items.map .text)) policy asked = .ok [Fields.idField] ∧
      ∃ name, resolved collection tenant (.text text) policy asked =
        .error (.invalid (.nothingSelected name))) := by
  refine ⟨⟨fun heq h => ?_, resolved_text_of_not_blocksOnly hitems htext⟩,
    resolved_of_blocksOnly hitems htext⟩
  obtain ⟨hlist, name, herror⟩ := resolved_of_blocksOnly hitems htext h
  rw [hlist, herror] at heq
  cases heq

end

/-- A name, a block and a name, with blanks of several kinds. -/
theorem resolved_text_list_mixed :
    resolved (.text "Book") .null (.text " title _additional\t\x7bid \x7d\nbody") (.text "raise")
        (.list []) =
      resolved (.text "Book") .null
        (.list (["title", "_additional\t\x7bid \x7d", "body"].map .text)) (.text "raise")
        (.list []) := by
  have hblock : Fields.IdBlock "_additional\t\x7bid \x7d".toList :=
    ⟨_, ⟨"\t".toList, [], " ".toList, rfl, rfl, rfl, rfl⟩, rfl⟩
  have hitems : ∀ item ∈ ["title", "_additional\t\x7bid \x7d", "body"], Item item.toList :=
    List.forall_mem_cons.mpr ⟨.inl rfl, List.forall_mem_cons.mpr ⟨.inr hblock,
      List.forall_mem_cons.mpr ⟨.inl rfl, List.forall_mem_nil _⟩⟩⟩
  have hbody : Spaced ["body".toList] ("\n".toList ++ ("body".toList ++ [])) :=
    .cons rfl (fun _ h => nomatch h) (.nil rfl)
  have hrest : Spaced ["_additional\t\x7bid \x7d".toList, "body".toList]
      (" ".toList ++ ("_additional\t\x7bid \x7d".toList ++ "\nbody".toList)) :=
    .cons rfl (.cons rfl) hbody
  have htext : Spaced (["title", "_additional\t\x7bid \x7d", "body"].map String.toList)
      " title _additional\t\x7bid \x7d\nbody".toList :=
    .cons (b := " ".toList) rfl (.cons rfl) hrest
  refine (resolved_text_list hitems htext _ _ _ _).1.mpr fun h => ?_
  -- The first item is no block.
  have htitle := (h.blocks "title" List.mem_cons_self).isName_eq_false
  exact absurd htitle (by decide)

/-- A block is a default field in a list, and none in a text. -/
theorem resolved_blockText :
    resolved (.text "Book") .null (.list [.text Fields.idField]) (.text "raise") (.list []) =
        .ok [Fields.idField] ∧
      resolved (.text "Book") .null (.text Fields.idField) (.text "raise") (.list []) =
        .error (.invalid (.nothingSelected "Book")) := by
  constructor
  · rfl
  · rfl

end Query

end ObjectStore
