import Mathlib
import ObjectStore.Proofs.Text.Digits
import ObjectStore.Proofs.Text.Words
import ObjectStore.Query.Fields

/-! # Identifier blocks in texts

An identifier block is the key of the additions with the identifier between braces behind it, and
blanks at will between these. In a text of fields each block is replaced by a blank, wherever it
begins: also at the end of a longer name, and inside the braces of another field.

* `IdBlock`: the blocks, `idBlockLength?_eq_some_iff`: they are what is recognized at the front of a
  text.
* `blankIdBlocks_append`: characters among which no block begins are left alone.
* `beginsBlock_append_iff`: what a name has to be for a block to begin with it.
* `ownFields_splitText`: what is left of a text holds no further block as a field. -/

namespace ObjectStore.Fields

open Text (allBlank isBlank)

variable {block cs ds rest v w x : List Char} {c : Char} {n : Nat}

/-! ## Blocks -/

/-- The identifier between braces, `cs`, with blanks at will. -/
def BracedId (cs : List Char) : Prop :=
  ∃ a b c, allBlank a = true ∧ allBlank b = true ∧ allBlank c = true ∧
    cs = a ++ '\x7b' :: (b ++ 'i' :: 'd' :: (c ++ ['\x7d']))

/-- That `cs` is an identifier block. -/
def IdBlock (cs : List Char) : Prop := ∃ ds, BracedId ds ∧ cs = metadataKey.toList ++ ds

/-- That `cs` begins with an identifier block. -/
def BeginsBlock (cs : List Char) : Prop := ∃ block rest, IdBlock block ∧ cs = block ++ rest

/-- `metadataKey` begins with an underscore. -/
theorem metadataKey_eq_cons : metadataKey.toList = '_' :: "additional".toList := by
  simp [metadataKey]

/-- The characters of `metadataKey` may stand in names. -/
theorem isNameChar_of_mem_metadataKey (h : c ∈ metadataKey.toList) :
    Validate.isNameChar c = true := by
  have hall : metadataKey.toList.all Validate.isNameChar = true := by
    simp [metadataKey]
    decide
  exact List.all_eq_true.mp hall c h

/-- The braced identifier begins with no character of names. -/
theorem BracedId.isNameChar_head (h : BracedId ds) :
    ∀ c ∈ (ds ++ rest).head?, Validate.isNameChar c = false := by
  obtain ⟨a, b, c, ha, -, -, rfl⟩ := h
  rw [List.append_assoc]
  exact Validate.isNameChar_head_blanks_append ha rfl

/-- An identifier block begins with an underscore. -/
theorem IdBlock.exists_eq_cons (h : IdBlock block) : ∃ cs, block = '_' :: cs := by
  obtain ⟨ds, -, rfl⟩ := h
  exact ⟨_, by rw [metadataKey_eq_cons]; rfl⟩

/-- `Text.strip block = block`: A block has no blanks at its ends. -/
theorem IdBlock.strip_eq (h : IdBlock block) : Text.strip block = block := by
  refine Text.strip_eq_self (fun c hc => ?_) fun c hc => ?_
  · obtain ⟨cs, rfl⟩ := h.exists_eq_cons
    cases hc
    rfl
  · obtain ⟨ds, ⟨a, b, d, -, -, -, rfl⟩, rfl⟩ := h
    have hlast : (metadataKey.toList ++ (a ++ '\x7b' :: (b ++ 'i' :: 'd' :: (d ++ ['\x7d'])))) =
        (metadataKey.toList ++ (a ++ '\x7b' :: (b ++ 'i' :: 'd' :: d))) ++ ['\x7d'] := by simp
    rw [hlast, List.getLast?_concat] at hc
    cases hc
    rfl

/-! ## Blocks at the front of a text -/

/-- `blanksThen (c :: word) cs = some (n, rest)`: `cs` is blanks and the word, `n` characters
together, and then `rest`. -/
theorem blanksThen_eq_some_iff {word : List Char} (hc : isBlank c = false) :
    blanksThen (c :: word) cs = some (n, rest) ↔
      ∃ b, allBlank b = true ∧ cs = b ++ c :: (word ++ rest) ∧
        n = b.length + (c :: word).length := by
  constructor
  · intro h
    rw [blanksThen] at h
    split at h
    · next hprefix =>
      obtain ⟨after, hafter⟩ := List.isPrefixOf_iff_prefix.mp hprefix
      cases h
      refine ⟨cs.takeWhile isBlank, List.all_takeWhile, ?_, rfl⟩
      rw [← List.cons_append, ← hafter, List.drop_left, hafter, List.takeWhile_append_dropWhile]
    · cases h
  · rintro ⟨b, hb, rfl, rfl⟩
    have hb := List.all_eq_true.mp hb
    rw [blanksThen, List.takeWhile_append_of_pos hb, List.dropWhile_append_of_pos hb]
    simp [hc]

/-- `idBlockLength? cs = some n`: `cs` begins with a block of `n` characters. -/
theorem idBlockLength?_eq_some_iff :
    idBlockLength? cs = some n ↔ ∃ block rest, IdBlock block ∧ cs = block ++ rest ∧
      n = block.length := by
  rw [idBlockLength?]
  constructor
  · intro h
    split at h
    · next hkey =>
      simp only [Option.bind_eq_bind, Option.bind_eq_some_iff, Prod.exists] at h
      obtain ⟨opening, afterOpening, ho, key, afterKey, hk, closing, rest, hcl, hn⟩ := h
      -- Behind the name: blanks and a brace, blanks and `id`, blanks and a brace.
      obtain ⟨afterName, rfl⟩ := List.isPrefixOf_iff_prefix.mp hkey
      rw [List.drop_left] at ho
      obtain ⟨a, ha, rfl, rfl⟩ := (blanksThen_eq_some_iff rfl).mp ho
      obtain ⟨b, hb, rfl, rfl⟩ := (blanksThen_eq_some_iff rfl).mp hk
      obtain ⟨c, hc, rfl, rfl⟩ := (blanksThen_eq_some_iff rfl).mp hcl
      refine ⟨_, rest, ⟨_, ⟨a, b, c, ha, hb, hc, rfl⟩, rfl⟩, ?_, ?_⟩
      · simp
      · rw [← Option.some.inj hn]
        simp
        omega
    · cases h
  · rintro ⟨_, rest, ⟨_, ⟨a, b, c, ha, hb, hc, rfl⟩, rfl⟩, rfl, rfl⟩
    have ho : blanksThen ['\x7b'] (a ++ '\x7b' :: (b ++ 'i' :: 'd' :: (c ++ '\x7d' :: rest))) =
        some (a.length + 1, b ++ 'i' :: 'd' :: (c ++ '\x7d' :: rest)) :=
      (blanksThen_eq_some_iff rfl).mpr ⟨a, ha, rfl, rfl⟩
    have hk : blanksThen ['i', 'd'] (b ++ 'i' :: 'd' :: (c ++ '\x7d' :: rest)) =
        some (b.length + 2, c ++ '\x7d' :: rest) :=
      (blanksThen_eq_some_iff rfl).mpr ⟨b, hb, rfl, rfl⟩
    have hcl : blanksThen ['\x7d'] (c ++ '\x7d' :: rest) = some (c.length + 1, rest) :=
      (blanksThen_eq_some_iff rfl).mpr ⟨c, hc, rfl, rfl⟩
    simp only [List.append_assoc, List.cons_append, List.nil_append]
    rw [if_pos (List.isPrefixOf_iff_prefix.mpr (List.prefix_append _ _)), List.drop_left, ho]
    simp only [Option.bind_eq_bind, Option.bind_some, hk, hcl]
    simp
    omega

/-- `idBlockLength? (block ++ rest) = some block.length`. -/
theorem idBlockLength?_append (h : IdBlock block) (rest : List Char) :
    idBlockLength? (block ++ rest) = some block.length :=
  idBlockLength?_eq_some_iff.mpr ⟨block, rest, h, rfl, rfl⟩

/-- `idBlockLength? cs = none`: `cs` begins with no block. -/
theorem idBlockLength?_eq_none_iff : idBlockLength? cs = none ↔ ¬ BeginsBlock cs := by
  rw [Option.eq_none_iff_forall_ne_some]
  constructor
  · rintro h ⟨block, rest, hblock, rfl⟩
    exact h _ (idBlockLength?_append hblock rest)
  · intro h n hn
    obtain ⟨block, rest, hblock, rfl, -⟩ := idBlockLength?_eq_some_iff.mp hn
    exact h ⟨block, rest, hblock, rfl⟩

/-- `isIdBlock cs = true ↔ IdBlock (Text.strip cs)`: A text is an identifier block if it is one
without the blanks around it. -/
theorem isIdBlock_iff : isIdBlock cs = true ↔ IdBlock (Text.strip cs) := by
  rw [isIdBlock, beq_iff_eq, idBlockLength?_eq_some_iff]
  constructor
  · rintro ⟨block, rest, hblock, hcs, hlength⟩
    have hrest : rest = [] := by
      rw [hcs, List.length_append] at hlength
      exact List.eq_nil_of_length_eq_zero (by omega)
    rwa [hcs, hrest, List.append_nil]
  · exact fun h => ⟨_, [], h, (List.append_nil _).symm, rfl⟩

/-! ## Texts without their blocks -/

/-- `blankIdBlocks 0 (block ++ cs) = ' ' :: blankIdBlocks 0 cs`: A block that a text begins with
becomes a blank. -/
theorem blankIdBlocks_block_append (h : IdBlock block) (cs : List Char) :
    blankIdBlocks 0 (block ++ cs) = ' ' :: blankIdBlocks 0 cs := by
  have hskip : ∀ xs : List Char, blankIdBlocks xs.length (xs ++ cs) = blankIdBlocks 0 cs := by
    intro xs
    induction xs with
    | nil => rfl
    | cons x xs ih =>
      rw [List.length_cons, List.cons_append, blankIdBlocks]
      exact ih
  have hlength := idBlockLength?_append h cs
  obtain ⟨block, rfl⟩ := h.exists_eq_cons
  rw [List.cons_append] at hlength ⊢
  rw [blankIdBlocks, hlength]
  exact congrArg (' ' :: ·) (hskip block)

/-- `blankIdBlocks 0 (c :: cs) = c :: blankIdBlocks 0 cs`: A character with which no block begins is
left. -/
theorem blankIdBlocks_cons (h : ¬ BeginsBlock (c :: cs)) :
    blankIdBlocks 0 (c :: cs) = c :: blankIdBlocks 0 cs := by
  rw [blankIdBlocks, idBlockLength?_eq_none_iff.mpr h]

/-- A text is empty, or it begins with a block, or it begins with a character at which none does. -/
@[elab_as_elim]
theorem blocks_induction {motive : List Char → Prop} (nil : motive [])
    (block : ∀ block cs, IdBlock block → motive cs → motive (block ++ cs))
    (char : ∀ c cs, ¬ BeginsBlock (c :: cs) → motive cs → motive (c :: cs))
    (cs : List Char) : motive cs := by
  induction hn : cs.length using Nat.strong_induction_on generalizing cs with
  | _ n ih =>
    by_cases hcs : BeginsBlock cs
    · obtain ⟨x, rest, hx, rfl⟩ := hcs
      refine block x rest hx (ih rest.length ?_ rest rfl)
      obtain ⟨x, rfl⟩ := hx.exists_eq_cons
      simp only [List.length_append, List.length_cons] at hn
      omega
    · cases cs with
      | nil => exact nil
      | cons c cs =>
        exact char c cs hcs (ih cs.length (hn ▸ Nat.lt_succ_self _) cs rfl)

/-- That no block begins with one of the characters `w`, given that `cs` follows them. -/
def Clear (w cs : List Char) : Prop := ∀ v, v ≠ [] → v <:+ w → ¬ BeginsBlock (v ++ cs)

/-- `blankIdBlocks 0 (w ++ cs) = w ++ blankIdBlocks 0 cs`: characters among which no block begins
are left alone. -/
theorem blankIdBlocks_append (h : Clear w cs) :
    blankIdBlocks 0 (w ++ cs) = w ++ blankIdBlocks 0 cs := by
  induction w with
  | nil => rfl
  | cons c w ih =>
    have hc : ¬ BeginsBlock (c :: (w ++ cs)) := h _ (List.cons_ne_nil c w) List.suffix_rfl
    have hw : Clear w cs := fun v hne hv => h v hne (hv.trans (List.suffix_cons c w))
    rw [List.cons_append, blankIdBlocks_cons hc, ih hw, List.cons_append]

/-- `cs ≠ block ++ rest`: A block begins with a character that stands in names. -/
theorem IdBlock.not_append_of_head (h : IdBlock block)
    (hcs : ∀ c ∈ cs.head?, Validate.isNameChar c = false) : cs ≠ block ++ rest := by
  rintro rfl
  obtain ⟨block, rfl⟩ := h.exists_eq_cons
  exact absurd (hcs '_' rfl) (by decide)

/-- `Clear w cs` if `w` has no characters of names: a block begins with one. -/
theorem clear_of_isNameChar_eq_false (h : ∀ c ∈ w, Validate.isNameChar c = false)
    (cs : List Char) : Clear w cs := by
  rintro v hne hv ⟨block, rest, hblock, heq⟩
  obtain ⟨c, v, rfl⟩ := List.exists_cons_of_ne_nil hne
  refine hblock.not_append_of_head ?_ heq
  rintro _ ⟨⟩
  exact h c (hv.mem List.mem_cons_self)

/-- `BeginsBlock (w ++ cs)`: A block that begins with a name, not followed by more of it, has this
name for its key. -/
theorem beginsBlock_append_iff (hne : w ≠ []) (hw : ∀ c ∈ w, Validate.isNameChar c = true)
    (hcs : ∀ c ∈ cs.head?, Validate.isNameChar c = false) :
    BeginsBlock (w ++ cs) ↔
      w = metadataKey.toList ∧ ∃ ds rest, BracedId ds ∧ cs = ds ++ rest := by
  constructor
  · rintro ⟨_, rest, ⟨ds, hds, rfl⟩, heq⟩
    rw [List.append_assoc] at heq
    obtain ⟨rfl, rfl⟩ := Text.append_inj_of_stop hw (fun _ => isNameChar_of_mem_metadataKey) hcs
      hds.isNameChar_head heq
    exact ⟨rfl, ds, rest, hds, rfl⟩
  · rintro ⟨rfl, ds, rest, hds, rfl⟩
    exact ⟨_, rest, ⟨ds, hds, rfl⟩, (List.append_assoc _ _ _).symm⟩

/-- `Clear w cs`: in a name nothing but the key at its end is part of a block. -/
theorem clear_of_name (hw : ∀ c ∈ w, Validate.isNameChar c = true)
    (hcs : ∀ c ∈ cs.head?, Validate.isNameChar c = false)
    (h : metadataKey.toList <:+ w → ∀ ds rest, BracedId ds → cs ≠ ds ++ rest) : Clear w cs := by
  intro v hne hv hbegins
  obtain ⟨rfl, ds, rest, hds, rfl⟩ :=
    (beginsBlock_append_iff hne (fun c hc => hw c (hv.mem hc)) hcs).mp hbegins
  exact h hv ds rest hds rfl

/-- `blankIdBlocks`: a block at the end of a name is cut off. -/
theorem blankIdBlocks_name_append (hx : ∀ c ∈ x, Validate.isNameChar c = true)
    (hds : BracedId ds) (rest : List Char) :
    blankIdBlocks 0 (x ++ (metadataKey.toList ++ (ds ++ rest))) =
      x ++ ' ' :: blankIdBlocks 0 rest := by
  have hclear : Clear x (metadataKey.toList ++ (ds ++ rest)) := by
    intro v hne hv hbegins
    have hname : ∀ c ∈ v ++ metadataKey.toList, Validate.isNameChar c = true := fun c hc =>
      (List.mem_append.mp hc).elim (fun hc => hx c (hv.mem hc)) isNameChar_of_mem_metadataKey
    rw [← List.append_assoc] at hbegins
    obtain ⟨hv, -⟩ := (beginsBlock_append_iff (List.append_ne_nil_of_left_ne_nil hne _) hname
      hds.isNameChar_head).mp hbegins
    exact hne (List.append_left_eq_self.mp hv)
  rw [blankIdBlocks_append hclear, ← List.append_assoc metadataKey.toList,
    blankIdBlocks_block_append ⟨ds, hds, rfl⟩]

/-- `(blankIdBlocks 0 cs).head? = cs.head?`: A text that does not begin with a block keeps its first
character. -/
theorem head?_blankIdBlocks (h : ∀ c ∈ cs.head?, Validate.isNameChar c = false) :
    (blankIdBlocks 0 cs).head? = cs.head? := by
  cases cs with
  | nil => rfl
  | cons c cs =>
    rw [blankIdBlocks_cons fun ⟨block, rest, hblock, heq⟩ => hblock.not_append_of_head h heq]
    rfl

/-- `blankIdBlocks 0 (x ++ cs) = x ++ blankIdBlocks 0 cs`: blanks are no part of a block. -/
theorem blankIdBlocks_blanks_append (hx : allBlank x = true) (cs : List Char) :
    blankIdBlocks 0 (x ++ cs) = x ++ blankIdBlocks 0 cs :=
  blankIdBlocks_append <| clear_of_isNameChar_eq_false
    (fun c hc => Validate.isNameChar_of_isBlank (List.all_eq_true.mp hx c hc)) cs

/-! ## The fields of a text -/

/-- `w <+: blankIdBlocks 0 cs` only if `w <+: cs`, for `w` without blanks. -/
theorem prefix_of_prefix_blankIdBlocks (hw : ∀ c ∈ w, isBlank c = false)
    (h : w <+: blankIdBlocks 0 cs) : w <+: cs := by
  induction cs using blocks_induction generalizing w with
  | nil => exact h
  | block block cs hblock ih =>
    -- Nothing without blanks begins where a block was.
    rw [blankIdBlocks_block_append hblock] at h
    cases w with
    | nil => exact List.nil_prefix
    | cons c w =>
      rw [(List.cons_prefix_cons.mp h).1] at hw
      exact absurd (hw ' ' List.mem_cons_self) (by decide)
  | char c cs hc ih =>
    rw [blankIdBlocks_cons hc] at h
    cases w with
    | nil => exact List.nil_prefix
    | cons d w =>
      obtain ⟨hdc, hprefix⟩ := List.cons_prefix_cons.mp h
      have hw := (List.forall_mem_cons.mp hw).2
      exact List.cons_prefix_cons.mpr ⟨hdc, ih hw hprefix⟩

/-- `¬ w <:+: blankIdBlocks 0 cs`: A block without blanks inside does not stand in a text without
its blocks. -/
theorem not_infix_blankIdBlocks (hblock : IdBlock w) (hw : ∀ c ∈ w, isBlank c = false) :
    ¬ w <:+: blankIdBlocks 0 cs := by
  obtain ⟨w', hcons⟩ := hblock.exists_eq_cons
  induction cs using blocks_induction with
  | nil => exact fun h => by simp [hcons, blankIdBlocks] at h
  | block block cs hx ih =>
    intro h
    rw [blankIdBlocks_block_append hx, List.infix_cons_iff] at h
    rcases h with h | h
    · rw [hcons] at h
      exact absurd (List.cons_prefix_cons.mp h).1 (by decide)
    · exact ih h
  | char c cs hc ih =>
    intro h
    -- Where such a block begins, it would have been recognized.
    rw [blankIdBlocks_cons hc, List.infix_cons_iff, ← blankIdBlocks_cons hc] at h
    rcases h with h | h
    · obtain ⟨rest, hrest⟩ := prefix_of_prefix_blankIdBlocks hw h
      exact hc ⟨w, rest, hblock, hrest.symm⟩
    · exact ih h

/-- `ownFields (ss.map .text)` are those that are no blocks. -/
theorem ownFields_map_text (ss : List String) :
    ownFields (ss.map .text) = .ok (ss.filter fun s => !isIdBlock s.toList) := by
  induction ss with
  | nil => rfl
  | cons s ss ih =>
    rw [List.map_cons, ownFields, ih, List.filter_cons]
    cases isIdBlock s.toList <;> rfl

/-- `ownFields ((splitText s).map .text) = .ok (splitText s)`: what is left of a text holds no
further block as a field. -/
theorem ownFields_splitText (s : String) :
    ownFields ((splitText s).map .text) = .ok (splitText s) := by
  rw [ownFields_map_text, List.filter_eq_self.mpr]
  intro t ht
  obtain ⟨w, hw, rfl⟩ := List.mem_map.mp ht
  obtain ⟨hblank, hinfix⟩ := Text.of_mem_words hw
  rw [String.toList_ofList, Bool.not_eq_true', ← Bool.not_eq_true, isIdBlock_iff]
  intro hblock
  rw [Text.strip_eq_self (fun c hc => hblank c (List.mem_of_mem_head? hc))
    fun c hc => hblank c (List.mem_of_getLast? hc)] at hblock
  exact not_infix_blankIdBlocks hblock hblank hinfix

end ObjectStore.Fields
