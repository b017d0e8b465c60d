import Mathlib
import ObjectStore.Proofs.Text.Words
import ObjectStore.Validate

/-! # Selections

A selection of the query language consists of fields, some of which have a selection in braces
behind them, and of inline fragments. It is written as names, braces and spreads. Blanks stand
between two names, and elsewhere at will.

* `parts?`: the parts of a text.
* `Spells`: a text and its parts, `parts?_eq_some_iff`: they are what is read.
* `Spells.append`, `Spells.split`: parts do not reach across blanks.
* `Selection`: selections as trees, `Selection.parts`: the parts that they are written as. -/

namespace ObjectStore.GraphQL

open Text (allBlank isBlank)
open Validate (isNameChar)

/-! ## Parts of a text -/

/-- A part of a selection that has a meaning of its own. -/
inductive Part
  | name (cs : List Char)
  | opening
  | closing
  | spread
deriving DecidableEq, Repr

namespace Part

def chars : Part → List Char
  | name w => w
  | opening => ['\x7b']
  | closing => ['\x7d']
  | spread => ['.', '.', '.']

/-- That a part can be written: a name has characters, all of which may stand in one. -/
def WellFormed : Part → Prop
  | name w => w ≠ [] ∧ ∀ c ∈ w, isNameChar c = true
  | _ => True

/-- That a part does not go on with the text behind it. -/
def EndsBefore : Part → List Char → Prop
  | name _, cs => ∀ c ∈ cs.head?, isNameChar c = false
  | _, _ => True

/-- The parts of a text `c :: cs`, where `c` is a character of a name and `ps` are the parts of
`cs`: the name that `cs` begins with goes on with `c`, or `c` is a name alone. -/
def addChar (c : Char) (cs : List Char) (ps : List Part) : List Part :=
  if cs.head?.any isNameChar then
    match ps with
    | name w :: ps => name (c :: w) :: ps
    | _ => name [c] :: ps
  else name [c] :: ps

variable {c : Char} {cs w : List Char} {ps : List Part}

/-- `addChar c cs (name w :: ps) = name (c :: w) :: ps` if a name goes on at `cs`. -/
theorem addChar_of_next (h : (cs.head?.any isNameChar) = true) :
    addChar c cs (name w :: ps) = name (c :: w) :: ps :=
  if_pos h

/-- `addChar c cs ps = name [c] :: ps` if no name goes on at `cs`. -/
theorem addChar_of_stop (h : ∀ d ∈ cs.head?, isNameChar d = false) :
    addChar c cs ps = name [c] :: ps := by
  refine if_neg ?_
  cases hd : cs.head? with
  | none => exact Bool.false_ne_true
  | some d => simp [h d hd]

end Part

/-- The parts of a text that follow some dots with which it has to begin. -/
def partsAfter? : Nat → List Char → Option (List Part)
  | 0, [] => some []
  | _ + 1, [] => none
  | dots + 1, c :: cs => if c == '.' then partsAfter? dots cs else none
  | 0, c :: cs =>
    if isBlank c then partsAfter? 0 cs
    else if isNameChar c then (partsAfter? 0 cs).map (Part.addChar c cs)
    else if c == '\x7b' then (partsAfter? 0 cs).map (.opening :: ·)
    else if c == '\x7d' then (partsAfter? 0 cs).map (.closing :: ·)
    else if c == '.' then (partsAfter? 2 cs).map (.spread :: ·)
    else none

/-- The parts of `cs`. -/
def parts? (cs : List Char) : Option (List Part) := partsAfter? 0 cs

variable {b c : Char} {cs w : List Char} {p : Part} {ps qs : List Part}

/-- `parts? (c :: cs) = parts? cs` for a blank `c`. -/
theorem parts?_blank (h : isBlank c = true) : parts? (c :: cs) = parts? cs := by
  rw [parts?, partsAfter?, if_pos h]
  rfl

/-- `parts? (c :: cs) = (parts? cs).map (Part.addChar c cs)`: A character of a name is added to the
parts behind it. -/
theorem parts?_nameChar (h : isNameChar c = true) :
    parts? (c :: cs) = (parts? cs).map (Part.addChar c cs) := by
  have hblank : ¬ isBlank c = true := by
    rw [Validate.isBlank_of_isNameChar h]
    exact Bool.false_ne_true
  rw [parts?, partsAfter?, if_neg hblank, if_pos h]
  rfl

/-- `parts? (w ++ cs)`: a name that ends before `cs` is the first part. -/
theorem parts?_name (hne : w ≠ []) (hw : ∀ c ∈ w, isNameChar c = true)
    (hcs : ∀ c ∈ cs.head?, isNameChar c = false) :
    parts? (w ++ cs) = (parts? cs).map (.name w :: ·) := by
  induction w with
  | nil => exact absurd rfl hne
  | cons c w ih =>
    obtain ⟨hc, hw⟩ := List.forall_mem_cons.mp hw
    rw [List.cons_append, parts?_nameChar hc]
    cases w with
    | nil => exact congrArg (Option.map · _) (funext fun ps => Part.addChar_of_stop hcs)
    | cons d w =>
      -- The name goes on, so that the character is put in front of it.
      rw [ih (List.cons_ne_nil d w) hw, Option.map_map]
      exact congrArg (Option.map · _)
        (funext fun ps => Part.addChar_of_next (hw d List.mem_cons_self))

/-- The characters of braces and spreads stand in no name. -/
theorem Part.isNameChar_eq_false (h : ∀ w, p ≠ .name w) :
    ∀ c ∈ p.chars, isNameChar c = false := by
  intro c hc
  cases p with
  | name w => exact absurd rfl (h w)
  | _ =>
    simp only [Part.chars, List.mem_cons, List.not_mem_nil, or_false, or_self] at hc
    subst hc
    rfl

/-- A part that is no name ends before every text. -/
theorem Part.EndsBefore.of_ne_name (h : ∀ w, p ≠ .name w) (cs : List Char) : p.EndsBefore cs := by
  cases p with
  | name w => exact absurd rfl (h w)
  | _ => trivial

/-- `p.EndsBefore []`: every part ends where the text ends. -/
theorem Part.EndsBefore.nil (p : Part) : p.EndsBefore [] := by
  cases p with
  | name w => exact fun _ h => nomatch h
  | _ => trivial

/-- A part that ends before `w ++ cs` ends before `w`. -/
theorem Part.EndsBefore.of_append (h : p.EndsBefore (w ++ cs)) : p.EndsBefore w := by
  cases p with
  | name v =>
    intro c hc
    cases w with
    | nil => cases hc
    | cons d w => exact h c hc
  | _ => trivial

/-- A part is written without blanks. -/
theorem Part.WellFormed.isBlank_eq_false (hp : p.WellFormed) :
    ∀ c ∈ p.chars, isBlank c = false := by
  intro c hc
  cases p with
  | name w => exact Validate.isBlank_of_isNameChar (hp.2 c hc)
  | _ =>
    simp only [Part.chars, List.mem_cons, List.not_mem_nil, or_false, or_self] at hc
    subst hc
    rfl

/-- `parts? (p.chars ++ cs) = (parts? cs).map (p :: ·)`: A part at the front of a text is read, and
then what follows it. -/
theorem parts?_part (hp : p.WellFormed) (hcs : p.EndsBefore cs) :
    parts? (p.chars ++ cs) = (parts? cs).map (p :: ·) := by
  cases p with
  | name w => exact parts?_name hp.1 hp.2 hcs
  | opening => rfl
  | closing => rfl
  | spread => rfl

/-- A text and its parts: there may be blanks before each of them, and none goes on with what
follows it. -/
inductive Spells : List Char → List Part → Prop
  | nil : Spells [] []
  | blank {c : Char} {cs : List Char} {ps : List Part} (hc : isBlank c = true) (h : Spells cs ps) :
      Spells (c :: cs) ps
  | part {p : Part} {cs : List Char} {ps : List Part} (hp : p.WellFormed) (hcs : p.EndsBefore cs)
      (h : Spells cs ps) : Spells (p.chars ++ cs) (p :: ps)

/-- `Spells (c :: cs) (Part.addChar c cs ps)`: A name goes on with the characters of names that
stand before it. -/
theorem Spells.addChar (hc : isNameChar c = true) (h : Spells cs ps) :
    Spells (c :: cs) (Part.addChar c cs ps) := by
  have hwell : ∀ {w : List Char}, (∀ d ∈ w, isNameChar d = true) →
      (Part.name (c :: w)).WellFormed :=
    fun hw => ⟨List.cons_ne_nil _ _, List.forall_mem_cons.mpr ⟨hc, hw⟩⟩
  by_cases hnext : (cs.head?.any isNameChar) = true
  · -- The text begins with a part that has such a character, which is a name.
    cases h with
    | nil => cases hnext
    | blank hd h =>
      rw [List.head?_cons, Option.any_some, Validate.isNameChar_of_isBlank hd] at hnext
      cases hnext
    | @part p cs ps hp hcs h =>
      cases p with
      | name w =>
        rw [Part.addChar_of_next hnext]
        exact .part (p := .name (c :: w)) (hwell hp.2) hcs h
      | _ => cases hnext
  · have hstop : ∀ d ∈ cs.head?, isNameChar d = false := fun d hd => by
      rw [Option.mem_def.mp hd] at hnext
      exact Bool.eq_false_of_not_eq_true hnext
    rw [Part.addChar_of_stop hstop]
    exact .part (p := .name [c]) (hwell (List.forall_mem_nil _)) hstop h

/-- A text with the parts `ps` after `dots` dots has these dots and then spells `ps`. -/
theorem spells_of_partsAfter? {dots : Nat} (h : partsAfter? dots cs = some ps) :
    ∃ ds, cs = List.replicate dots '.' ++ ds ∧ Spells ds ps := by
  -- By the recursion of `partsAfter?`: the end of the text, a dot, a blank, a character of a name,
  -- a brace or the third dot, and anything else, at which there are no parts.
  fun_induction partsAfter? dots cs generalizing ps with
  | case1 =>
    cases h
    exact ⟨[], rfl, .nil⟩
  | case2 => cases h
  | case3 dots c cs hc ih =>
    obtain ⟨ds, rfl, hds⟩ := ih h
    exact ⟨ds, by rw [beq_iff_eq.mp hc]; rfl, hds⟩
  | case4 => cases h
  | case5 c cs hc ih =>
    obtain ⟨ds, rfl, hds⟩ := ih h
    exact ⟨_, rfl, .blank hc hds⟩
  | case6 c cs _ hc ih =>
    obtain ⟨qs, hqs, rfl⟩ := Option.map_eq_some_iff.mp h
    obtain ⟨ds, rfl, hds⟩ := ih hqs
    exact ⟨_, rfl, hds.addChar hc⟩
  | case7 c cs _ _ hc ih =>
    obtain ⟨qs, hqs, rfl⟩ := Option.map_eq_some_iff.mp h
    obtain ⟨ds, rfl, hds⟩ := ih hqs
    rw [beq_iff_eq.mp hc]
    exact ⟨_, rfl, .part (p := .opening) trivial trivial hds⟩
  | case8 c cs _ _ _ hc ih =>
    obtain ⟨qs, hqs, rfl⟩ := Option.map_eq_some_iff.mp h
    obtain ⟨ds, rfl, hds⟩ := ih hqs
    rw [beq_iff_eq.mp hc]
    exact ⟨_, rfl, .part (p := .closing) trivial trivial hds⟩
  | case9 c cs _ _ _ _ hc ih =>
    obtain ⟨qs, hqs, rfl⟩ := Option.map_eq_some_iff.mp h
    obtain ⟨ds, rfl, hds⟩ := ih hqs
    rw [beq_iff_eq.mp hc]
    exact ⟨_, rfl, .part (p := .spread) trivial trivial hds⟩
  | case10 => cases h

/-- `parts? cs = some ps ↔ Spells cs ps`. -/
theorem parts?_eq_some_iff : parts? cs = some ps ↔ Spells cs ps := by
  constructor
  · intro h
    obtain ⟨ds, rfl, hds⟩ := spells_of_partsAfter? h
    exact hds
  · intro h
    induction h with
    | nil => rfl
    | blank hc h ih => rw [parts?_blank hc, ih]
    | part hp hcs h ih => rw [parts?_part hp hcs, ih, Option.map_some]

namespace Spells

/-! ## Texts cut at their parts -/

variable {a : List Char} {rs : List Part}

/-- `Spells cs ps` and `Spells cs qs` only if `ps = qs`. -/
theorem eq (h : Spells cs ps) (h' : Spells cs qs) : ps = qs :=
  Option.some.inj ((parts?_eq_some_iff.mpr h).symm.trans (parts?_eq_some_iff.mpr h'))

/-- `Spells (a ++ cs) ps ↔ Spells cs ps` for blanks `a`. -/
theorem blanks_append_iff (ha : allBlank a = true) : Spells (a ++ cs) ps ↔ Spells cs ps := by
  induction a with
  | nil => exact Iff.rfl
  | cons c a ih =>
    rw [allBlank, List.all_cons, Bool.and_eq_true] at ha
    rw [← ih ha.2, List.cons_append, ← parts?_eq_some_iff, parts?_blank ha.1, parts?_eq_some_iff]

/-- `ps = [] ↔ allBlank cs = true`: it is blanks that have no parts. -/
theorem eq_nil_iff (h : Spells cs ps) : ps = [] ↔ allBlank cs = true := by
  constructor
  · intro hnil
    induction h with
    | nil => rfl
    | blank hc h ih =>
      rw [allBlank, List.all_cons, hc]
      exact ih hnil
    | part hp hcs h ih => cases hnil
  · intro hblank
    rw [← List.append_nil cs, blanks_append_iff hblank] at h
    exact h.eq .nil

/-- `Spells (p.chars ++ cs) ps`: `p` is the first part, and `cs` spells the others. -/
theorem part_append_iff (hp : p.WellFormed) (hcs : p.EndsBefore cs) :
    Spells (p.chars ++ cs) ps ↔ ∃ qs, Spells cs qs ∧ p :: qs = ps := by
  simp only [← parts?_eq_some_iff, parts?_part hp hcs, Option.map_eq_some_iff]

/-- Where the first part of a text stands. -/
theorem exists_of_cons (h : Spells cs (p :: ps)) :
    ∃ a ds, allBlank a = true ∧ cs = a ++ (p.chars ++ ds) ∧ p.WellFormed ∧ p.EndsBefore ds ∧
      Spells ds ps := by
  generalize hqs : p :: ps = qs at h
  induction h with
  | nil => cases hqs
  | @blank c cs qs hc h ih =>
    obtain ⟨a, ds, ha, rfl, hp, hds, hrest⟩ := ih hqs
    refine ⟨c :: a, ds, ?_, rfl, hp, hds, hrest⟩
    rw [allBlank, List.all_cons, hc]
    exact ha
  | part hp hcs h ih =>
    cases hqs
    exact ⟨[], _, rfl, rfl, hp, hcs, h⟩

/-- `Spells (w ++ cs) (ps ++ qs)`: blanks end every part, so that texts with blanks between them
have the parts of both. -/
theorem append (h : Spells w ps) (hcs : Text.EndsWord cs) (h' : Spells cs qs) :
    Spells (w ++ cs) (ps ++ qs) := by
  induction h with
  | nil => exact h'
  | blank hc h ih => exact .blank hc ih
  | @part p ds ps hp hds h ih =>
    rw [List.append_assoc]
    refine .part hp ?_ ih
    cases p with
    | name w =>
      intro c hc
      cases ds with
      | nil => exact Validate.isNameChar_of_isBlank (hcs c hc)
      | cons d ds => exact hds c hc
    | _ => trivial

/-- `Spells (w ++ cs) rs`: A text with a blank in it is cut into texts that have its parts. -/
theorem split (hcs : Text.EndsWord cs) (h : Spells (w ++ cs) rs) :
    ∃ ps qs, rs = ps ++ qs ∧ Spells w ps ∧ Spells cs qs := by
  generalize hds : w ++ cs = ds at h
  induction h generalizing w with
  | nil =>
    obtain ⟨rfl, rfl⟩ := List.append_eq_nil_iff.mp hds
    exact ⟨[], [], rfl, .nil, .nil⟩
  | @blank c ds rs hc h ih =>
    cases w with
    | nil =>
      rw [List.nil_append] at hds
      exact ⟨[], rs, rfl, .nil, hds ▸ .blank hc h⟩
    | cons d w =>
      obtain ⟨rfl, hrest⟩ := List.cons.inj hds
      obtain ⟨ps, qs, rfl, hw, hcs⟩ := ih hrest
      exact ⟨ps, qs, rfl, .blank hc hw, hcs⟩
  | @part p ds rs hp hds' h ih =>
    rcases List.append_eq_append_iff.mp hds with ⟨x, hx, rfl⟩ | ⟨x, rfl, rfl⟩
    · -- The part ends with the first text, since no blank stands in it.
      cases x with
      | nil =>
        rw [List.append_nil] at hx
        have hw := Spells.part hp (.nil p) .nil
        rw [List.append_nil, hx] at hw
        exact ⟨[p], rs, rfl, hw, h⟩
      | cons c x =>
        have hblank : isBlank c = true := hcs c rfl
        rw [hp.isBlank_eq_false c (by rw [hx]; simp)] at hblank
        cases hblank
    · obtain ⟨ps, qs, rfl, hx, hcs⟩ := ih rfl
      exact ⟨p :: ps, qs, rfl, .part hp hds'.of_append hx, hcs⟩

end Spells

/-! ## Selections as trees -/

/-- What the braces of a selection stand behind. -/
inductive Head
  /-- A field. -/
  | name (cs : List Char)
  /-- An inline fragment. -/
  | inline
  /-- An inline fragment on a type. -/
  | inlineOn (type : List Char)
deriving DecidableEq, Repr

/-- A selection: a field, or something with selections in braces. -/
inductive Selection
  | field (name : List Char)
  | braced (head : Head) (inner : List Selection)
deriving Repr

def Head.parts : Head → List Part
  | name w => [.name w]
  | inline => [.spread]
  | inlineOn type => [.spread, .name ['o', 'n'], .name type]

namespace Selection

mutual

/-- The parts that a selection is written as. -/
def parts : Selection → List Part
  | field w => [.name w]
  | braced head inner => head.parts ++ .opening :: (partsAll inner ++ [.closing])

/-- The parts that some selections are written as. -/
def partsAll : List Selection → List Part
  | [] => []
  | s :: ss => parts s ++ partsAll ss

end

/-- `partsAll (ss ++ ts) = partsAll ss ++ partsAll ts`. -/
theorem partsAll_append (ss ts : List Selection) :
    partsAll (ss ++ ts) = partsAll ss ++ partsAll ts := by
  induction ss with
  | nil => rfl
  | cons s ss ih => rw [List.cons_append, partsAll, partsAll, ih, List.append_assoc]

end Selection

end ObjectStore.GraphQL
