import Mathlib
import ObjectStore.Proofs.GraphQL.Selection
import ObjectStore.Proofs.Query.IdBlocks
import ObjectStore.Proofs.Query.Unambiguous

/-! # Identifier blocks among the parts of a selection

Default fields may be given in a text that is a selection. The blocks that are dropped from it are
known from its parts: a name with the key at its end, and the identifier in braces behind it. What
stands before the key in the name stays. The words of what is left are sent with blanks between
them, which are the parts that are left.

* `dropBlocks`: parts without the blocks among them.
* `spells_blankIdBlocks`: they are the parts of the text without its blocks.
* `spells_fieldText_splitText`: they are sent, with the identifier after them. -/

namespace ObjectStore

open GraphQL (Part Spells)
open Text (allBlank isBlank)

namespace Fields

variable {cs ds rest v w x k : List Char} {p : Part} {ps qs : List Part}

/-! ## Parts without their blocks -/

/-- The field that is the identifier. -/
def idName : List Char := ['i', 'd']

/-- The parts of an identifier block whose key is the end of a name, behind `x`. -/
def blockParts (x : List Char) : List Part :=
  [.name (x ++ metadataKey.toList), .opening, .name idName, .closing]

/-- The name `w`, or nothing if it has no characters. -/
def nameParts (w : List Char) : List Part := if w.isEmpty then [] else [.name w]

/-- What stands before the key in the name `w`, if it selects the identifier, `k`. -/
def beforeKey? (w k : List Char) : Option (List Char) :=
  if k = idName then metadataKey.toList.isSuffixOf? w else none

/-- Some parts without the identifier blocks among them. A name that ends with the key keeps what
stands before it. -/
def dropBlocks : List Part → List Part
  | [] => []
  | .name w :: .opening :: .name k :: .closing :: ps =>
    match beforeKey? w k with
    | some x => nameParts x ++ dropBlocks ps
    | none => .name w :: .opening :: .name k :: .closing :: dropBlocks ps
  | p :: ps => p :: dropBlocks ps

/-- `dropBlocks [] = []`. -/
@[simp] theorem dropBlocks_nil : dropBlocks [] = [] := rfl

/-- `dropBlocks (.closing :: ps) = .closing :: dropBlocks ps`: A closing brace at the front is
left. -/
@[simp] theorem dropBlocks_closing (ps : List Part) :
    dropBlocks (.closing :: ps) = .closing :: dropBlocks ps := rfl

/-- `dropBlocks (.spread :: ps) = .spread :: dropBlocks ps`: A spread at the front is left. -/
@[simp] theorem dropBlocks_spread (ps : List Part) :
    dropBlocks (.spread :: ps) = .spread :: dropBlocks ps := rfl

/-- `beforeKey? w k = some x`: the field is the identifier, and its head is `x` and the key. -/
theorem beforeKey?_eq_some_iff :
    beforeKey? w k = some x ↔ k = idName ∧ w = x ++ metadataKey.toList := by
  rw [beforeKey?]
  split
  · next hk =>
    rw [List.isSuffixOf?_eq_some_iff_append_eq]
    exact ⟨fun h => ⟨hk, h.symm⟩, fun h => h.2.symm⟩
  · next hk => simp [hk]

/-- `dropBlocks (blockParts x ++ ps) = nameParts x ++ dropBlocks ps`: of a block whose key ends a
name, the rest of the name is left. -/
theorem dropBlocks_blockParts (x : List Char) (ps : List Part) :
    dropBlocks (blockParts x ++ ps) = nameParts x ++ dropBlocks ps := by
  have hx : beforeKey? (x ++ metadataKey.toList) idName = some x :=
    beforeKey?_eq_some_iff.mpr ⟨rfl, rfl⟩
  simp only [blockParts, List.cons_append, List.nil_append, dropBlocks, hx]

/-- `dropBlocks (p :: ps) = p :: dropBlocks ps`: A part with which no block begins is left. -/
theorem dropBlocks_cons (h : ∀ x qs, p :: ps ≠ blockParts x ++ qs) :
    dropBlocks (p :: ps) = p :: dropBlocks ps := by
  rw [dropBlocks.eq_def]
  split
  · next heq => cases heq
  · next w k ps heq =>
    cases heq
    cases hx : beforeKey? w k with
    | some x =>
      obtain ⟨rfl, rfl⟩ := beforeKey?_eq_some_iff.mp hx
      exact absurd rfl (h x ps)
    | none => rfl
  · next heq =>
    cases heq
    rfl

/-- `dropBlocks (p :: ps) = p :: dropBlocks ps`: blocks begin with names: a part that is none is
left. -/
theorem dropBlocks_cons_of_ne_name (h : ∀ w, p ≠ .name w) (ps : List Part) :
    dropBlocks (p :: ps) = p :: dropBlocks ps :=
  dropBlocks_cons fun _ _ heq => h _ (List.cons.inj heq).1

/-- `dropBlocks (.name w :: ps) = .name w :: dropBlocks ps`: A name is dropped only with braces
behind it. -/
theorem dropBlocks_name_cons (h : ∀ qs, ps ≠ .opening :: qs) (w : List Char) :
    dropBlocks (.name w :: ps) = .name w :: dropBlocks ps :=
  dropBlocks_cons fun _ _ heq => h _ (List.cons.inj heq).2

/-! ## Blocks in texts and among parts -/

/-- `idName` can be written. -/
theorem idName_wellFormed : (Part.name idName).WellFormed :=
  ⟨List.cons_ne_nil _ _, List.forall_mem_cons.mpr ⟨rfl, List.forall_mem_singleton.mpr rfl⟩⟩

/-- The identifier between braces, as parts and as characters. -/
theorem exists_of_spells_bracedId (h : Spells cs (.opening :: .name idName :: .closing :: ps)) :
    ∃ ds rest, BracedId ds ∧ cs = ds ++ rest ∧ Spells rest ps := by
  obtain ⟨a, cs, ha, rfl, -, -, h⟩ := h.exists_of_cons
  obtain ⟨b, cs, hb, rfl, -, -, h⟩ := h.exists_of_cons
  obtain ⟨c, rest, hc, rfl, -, -, h⟩ := h.exists_of_cons
  refine ⟨_, rest, ⟨a, b, c, ha, hb, hc, rfl⟩, ?_, h⟩
  simp [Part.chars, idName]

/-- A text that begins with the braced identifier has its three parts and then those of the rest. -/
theorem exists_of_spells_append (hds : BracedId ds) (h : Spells (ds ++ rest) ps) :
    ∃ qs, ps = .opening :: .name idName :: .closing :: qs ∧ Spells rest qs := by
  obtain ⟨a, b, c, ha, hb, hc, rfl⟩ := hds
  have hassoc : a ++ '\x7b' :: (b ++ 'i' :: 'd' :: (c ++ ['\x7d'])) ++ rest =
      a ++ (Part.opening.chars ++
        (b ++ ((Part.name idName).chars ++ (c ++ (Part.closing.chars ++ rest))))) := by
    simp [Part.chars, idName]
  -- The name ends at the blanks or at the brace behind it.
  have hstop : (Part.name idName).EndsBefore (c ++ (Part.closing.chars ++ rest)) :=
    Validate.isNameChar_head_blanks_append hc rfl
  rw [hassoc, Spells.blanks_append_iff ha,
    Spells.part_append_iff (p := .opening) trivial trivial] at h
  obtain ⟨qs, h, rfl⟩ := h
  rw [Spells.blanks_append_iff hb, Spells.part_append_iff idName_wellFormed hstop] at h
  obtain ⟨qs, h, rfl⟩ := h
  rw [Spells.blanks_append_iff hc,
    Spells.part_append_iff (p := .closing) trivial trivial] at h
  obtain ⟨qs, h, rfl⟩ := h
  exact ⟨qs, rfl, h⟩

/-- `Spells w (nameParts w)` for characters of names. -/
theorem spells_nameParts (hw : ∀ c ∈ w, Validate.isNameChar c = true) : Spells w (nameParts w) := by
  rw [nameParts]
  cases w with
  | nil => exact .nil
  | cons c w =>
    have h := Spells.part (p := .name (c :: w)) ⟨List.cons_ne_nil c w, hw⟩ (.nil _) .nil
    rw [List.append_nil] at h
    exact h

/-- A name, and perhaps a block with its end as the key, given that what follows is known. -/
theorem spells_blankIdBlocks_name (hp : (Part.name w).WellFormed)
    (hcs : (Part.name w).EndsBefore cs) (h : Spells cs ps)
    (ih : ∀ {ds qs}, ds.length ≤ cs.length → Spells ds qs →
      Spells (blankIdBlocks 0 ds) (dropBlocks qs)) :
    Spells (blankIdBlocks 0 (w ++ cs)) (dropBlocks (.name w :: ps)) := by
  by_cases hblock : ∃ x qs, .name w :: ps = blockParts x ++ qs
  · -- The text goes on with the identifier in braces, and the blank for the block ends the name.
    obtain ⟨x, qs, heq⟩ := hblock
    rw [heq, dropBlocks_blockParts]
    obtain ⟨hw, rfl⟩ := List.cons.inj heq
    obtain rfl := Part.name.inj hw
    obtain ⟨ds, rest, hds, rfl, hrest⟩ := exists_of_spells_bracedId h
    have hx : ∀ c ∈ x, Validate.isNameChar c = true := fun c hc =>
      hp.2 c (List.mem_append_left _ hc)
    rw [List.append_assoc, blankIdBlocks_name_append hx hds]
    refine (spells_nameParts hx).append (.cons rfl) (.blank rfl (ih ?_ hrest))
    rw [List.length_append]
    omega
  · -- A block at the end of the name would be one among the parts.
    have hclear : Clear w cs := by
      refine clear_of_name hp.2 hcs ?_
      rintro ⟨x, rfl⟩ ds rest hds rfl
      obtain ⟨qs, rfl, -⟩ := exists_of_spells_append hds h
      exact hblock ⟨x, qs, rfl⟩
    rw [blankIdBlocks_append hclear, dropBlocks_cons fun x qs heq => hblock ⟨x, qs, heq⟩]
    refine .part hp ?_ (ih (Nat.le_refl _) h)
    rw [Part.EndsBefore, head?_blankIdBlocks hcs]
    exact hcs

/-- `Spells (blankIdBlocks 0 cs) (dropBlocks ps)`: the parts of a text without its blocks are the
parts of the text without theirs. -/
theorem spells_blankIdBlocks (h : Spells cs ps) : Spells (blankIdBlocks 0 cs) (dropBlocks ps) := by
  -- On the length, since a block takes several parts away at once.
  induction hn : cs.length using Nat.strong_induction_on generalizing cs ps with
  | _ n ih =>
    subst hn
    cases h with
    | nil => exact .nil
    | @blank c cs ps hc h =>
      have hblank : allBlank [c] = true := by rw [allBlank, List.all_cons, hc]; rfl
      have hcut := blankIdBlocks_blanks_append hblank cs
      rw [List.singleton_append] at hcut
      rw [hcut]
      exact .blank hc (ih cs.length (Nat.lt_succ_self _) h rfl)
    | @part p cs ps hp hcs h =>
      have hlt : cs.length < (p.chars ++ cs).length := by
        have hpos : 0 < p.chars.length := by
          cases p with
          | name w => exact List.length_pos_iff.mpr hp.1
          | _ => exact Nat.succ_pos _
        rw [List.length_append]
        omega
      have hshort : ∀ {ds qs}, ds.length ≤ cs.length → Spells ds qs →
          Spells (blankIdBlocks 0 ds) (dropBlocks qs) :=
        fun hle hqs => ih _ (Nat.lt_of_le_of_lt hle hlt) hqs rfl
      by_cases hname : ∃ w, p = .name w
      · obtain ⟨w, rfl⟩ := hname
        exact spells_blankIdBlocks_name hp hcs h hshort
      · have hname : ∀ w, p ≠ .name w := fun w hw => hname ⟨w, hw⟩
        rw [blankIdBlocks_append (clear_of_isNameChar_eq_false (Part.isNameChar_eq_false hname) cs),
          dropBlocks_cons_of_ne_name hname]
        exact .part hp (.of_ne_name hname _) (hshort (Nat.le_refl _) h)

/-- `Query.fieldText`: words that are joined again to the text of fields have the parts that they
had. -/
theorem spells_fieldText (h : Spells cs ps) :
    Spells (Query.fieldText ((Text.words cs).map String.ofList ++ [idField]))
      (ps ++ blockParts []) := by
  induction cs using Text.words_induction generalizing ps with
  | blanks b hb =>
    rw [Text.words_of_allBlank hb, h.eq_nil_iff.mpr hb]
    exact GraphQL.parts?_eq_some_iff.mp rfl
  | word b w cs hb hne hw hcs ih =>
    rw [Spells.blanks_append_iff hb] at h
    obtain ⟨ps, qs, rfl, hps, hqs⟩ := h.split hcs
    rw [Text.words_blanks_append hb, Text.words_word_append hne hw hcs, List.map_cons,
      Query.fieldText_cons, String.toList_ofList, List.append_assoc]
    exact hps.append (.cons rfl) (.blank rfl (ih hqs))

/-- `splitText text = [] ↔ dropBlocks ps = []`: A text of selections has no fields if no parts are
left of it. -/
theorem splitText_eq_nil_iff {text : String} (h : Spells text.toList ps) :
    splitText text = [] ↔ dropBlocks ps = [] := by
  rw [splitText, List.map_eq_nil_iff, Text.words_eq_nil_iff, (spells_blankIdBlocks h).eq_nil_iff]

/-- `Query.fieldText (splitText text ++ [idField])` has the parts that are left of the text, and the
identifier's. -/
theorem spells_fieldText_splitText {text : String} (h : Spells text.toList ps) :
    Spells (Query.fieldText (splitText text ++ [idField])) (dropBlocks ps ++ blockParts []) :=
  spells_fieldText (spells_blankIdBlocks h)

end Fields

end ObjectStore
