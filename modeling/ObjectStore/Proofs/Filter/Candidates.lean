import Mathlib
import ObjectStore.Proofs.Filter.Constructible
import ObjectStore.Proofs.Value.Ascending

/-! # Candidates of membership tests

The candidates of a membership test are the literals in a collection, at least one and all of one
kind. Those of a set are put into ascending order first. Literals of one kind are ordered by a key,
their exact value, their characters or their instant. There are two exceptions: a naive reading is
not ordered with an aware one, and aware readings of one zone are compared by the clock, which at a
fold is not the order of their instants. Of readings in two zones, one of them at a fold, three may
then be each before the next, and the last before the first.

* `Filter.candidates_eq_ok_iff`: which literals are the candidates of a value.
* `DateTime.ByInstant`: readings that are compared as their instants are.
* `Literal.before?_ofLiteral`, `Literal.same_ofLiteral`: order and equality of literals by their
  keys.
* `Value.AreOrdered`: literals of one kind, any two of them ordered, which is when they can be
  sorted.
* `Value.AreOrdered.sortedByKind?_eq`: that they are sorted by their ranks, if they are in a linear
  order.
* `Value.AreOrdered.isLinear_of_readByInstant`, `Value.AreOrdered.isLinear_of_ascending`: that they
  are, if readings are compared by instant, or if they have a strictly ascending order at all. -/

namespace ObjectStore

/-! ## Scalars -/

/-- The values that filters compare with. -/
inductive Value.IsScalar : Value → Prop
  | bool (b : Bool) : IsScalar (.bool b)
  | int (n : Int) : IsScalar (.int n)
  | double {x : Double} (h : x.isFinite = true) : IsScalar (.double x)
  | text (s : String) : IsScalar (.text s)
  | datetime (t : DateTime) : IsScalar (.datetime t)

/-- `v.IsScalar`: the scalars are the values of finite literals. -/
theorem Value.isScalar_iff {v : Value} : v.IsScalar ↔ ∃ l, v = ofLiteral l ∧ l.IsFinite := by
  constructor
  · intro h
    cases h with
    | bool b => exact ⟨.bool b, rfl, trivial⟩
    | int n => exact ⟨.int n, rfl, trivial⟩
    | double h => exact ⟨.double _, rfl, h⟩
    | text s => exact ⟨.text s, rfl, trivial⟩
    | datetime t => exact ⟨.date t, rfl, trivial⟩
  · rintro ⟨l, rfl, hl⟩
    cases l with
    | bool b => exact .bool b
    | int n => exact .int n
    | double x => exact .double hl
    | text s => exact .text s
    | date t => exact .datetime t

/-- `ofLiteral` takes different literals to different values. -/
theorem Value.ofLiteral_injective : Function.Injective ofLiteral := by
  intro a b hab
  simpa using congrArg literal? hab

/-- `(ofLiteral l).tag = l.tag`: the value of a literal is of its kind. -/
@[simp] theorem Value.tag_ofLiteral (l : Literal) : (Value.ofLiteral l).tag = l.tag := by
  simp [Value.tag]

/-- `items = ls.map ofLiteral`: scalars of one kind are literals of one kind. -/
theorem Value.exists_literals {items : List Value} {tag : Tag}
    (h : ∀ x ∈ items, x.IsScalar ∧ x.tag = tag) :
    ∃ ls : List Literal, items = ls.map ofLiteral ∧ ∀ l ∈ ls, l.IsFinite ∧ l.tag = tag := by
  induction items with
  | nil => exact ⟨[], rfl, by simp⟩
  | cons x items ih =>
    obtain ⟨⟨hscalar, htag⟩, hrest⟩ := List.forall_mem_cons.mp h
    obtain ⟨l, rfl, hl⟩ := isScalar_iff.mp hscalar
    obtain ⟨ls, rfl, hls⟩ := ih hrest
    rw [tag_ofLiteral] at htag
    exact ⟨l :: ls, rfl, List.forall_mem_cons.mpr ⟨⟨hl, htag⟩, hls⟩⟩

/-- `literal place v = .ok l` exactly if `v` is the value of the finite literal `l`. -/
theorem Validate.literal_eq_ok_iff {place : String} {v : Value} {l : Literal} :
    literal place v = .ok l ↔ v = .ofLiteral l ∧ l.IsFinite := by
  constructor
  · intro h
    refine ⟨?_, Filter.isFinite_of_literal h⟩
    unfold literal at h
    split at h
    · cases h
    · split at h
      · cases h
      · next x hx =>
        split at h
        · cases h
          exact Value.eq_ofLiteral_of_literal? hx
        · cases h
      · next hx =>
        cases h
        exact Value.eq_ofLiteral_of_literal? hx
  · rintro ⟨rfl, hl⟩
    cases l with
    | double x =>
      have hx : x.isFinite = true := hl
      simp [Value.ofLiteral, literal, Value.literal?, hx]
    | _ => rfl

/-- `items.mapM (literal place) = .ok ls`: values are accepted as literals exactly if they are the
values of finite ones. -/
theorem Validate.literals_eq_ok_iff {place : String} {items : List Value} {ls : List Literal} :
    items.mapM (literal place) = .ok ls ↔
      items = ls.map .ofLiteral ∧ ∀ l ∈ ls, l.IsFinite := by
  constructor
  · intro h
    have hall := forall₂_of_mapM_eq_ok h
    clear h
    induction hall with
    | nil => exact ⟨rfl, by simp⟩
    | cons hl _ ih =>
      obtain ⟨rfl, hfinite⟩ := literal_eq_ok_iff.mp hl
      exact ⟨by rw [ih.1, List.map_cons], List.forall_mem_cons.mpr ⟨hfinite, ih.2⟩⟩
  · rintro ⟨rfl, hls⟩
    refine mapM_eq_ok_of_forall₂ ?_
    rw [List.forall₂_map_left_iff, List.forall₂_same]
    intro l hl
    exact literal_eq_ok_iff.mpr ⟨rfl, hls l hl⟩

/-! ## Literals of one kind -/

namespace Filter

/-- `tagNames ls`: literals of one kind have at most one name of their kinds. -/
theorem length_tagNames_le {ls : List Literal} {tag : Tag} (h : ∀ l ∈ ls, l.tag = tag) :
    ¬ 1 < (tagNames ls).length := by
  have hnames : ls.map (fun l => l.tag.name) = List.replicate ls.length tag.name := by
    rw [List.eq_replicate_iff, List.length_map]
    refine ⟨rfl, fun name hname => ?_⟩
    obtain ⟨l, hl, rfl⟩ := List.mem_map.mp hname
    rw [h l hl]
  rw [tagNames, hnames, List.length_mergeSort]
  cases ls.length <;> simp [List.replicate_succ, List.eraseDups_cons]

/-- `candidates v = .ok ls`: the candidates of a value are the literals that its items are, if these
fit a membership test. -/
theorem candidates_eq_ok_iff {v : Value} {ls : List Literal} :
    candidates v = .ok ls ↔
      candidateItems v = .ok (ls.map .ofLiteral) ∧ Operand.Fits .containsAny (.many ls) := by
  constructor
  · intro h
    refine ⟨?_, candidates_fit h⟩
    unfold candidates at h
    obtain ⟨items, hitems, h⟩ := bind_eq_ok h
    split at h
    · cases h
    · obtain ⟨literals, hliterals, h⟩ := bind_eq_ok h
      dsimp only at h
      split at h
      · cases h
      · cases h
        rw [hitems, (Validate.literals_eq_ok_iff.mp (checked_eq_ok hliterals)).1]
  · rintro ⟨hitems, hfits⟩
    cases hfits with
    | many tag hne htag hls =>
      -- None of the three tests is failed: the items are literals, there are some, and they are of
      -- one kind.
      have hliterals : checked ((ls.map Value.ofLiteral).mapM
          (Validate.literal "contains_any value")) = .ok ls := by
        rw [Validate.literals_eq_ok_iff.mpr ⟨rfl, hls⟩]
        rfl
      have hempty : (ls.map Value.ofLiteral).isEmpty = false := by simpa using hne
      have hone : ¬ 1 < (tagNames ls).length := length_tagNames_le htag
      rw [candidates, hitems]
      show (if (ls.map Value.ofLiteral).isEmpty then _ else _) = _
      rw [hempty, if_neg (by decide), hliterals]
      exact if_neg hone

end Filter

/-! ## The order of literals -/

/-- That `s` and `t` are ordered, and equal, as their instants are, if they are both aware. -/
def DateTime.ByInstant (s t : DateTime) : Prop :=
  ∀ i ∈ s.instant?, ∀ j ∈ t.instant?,
    s.before? t = some (decide (i < j)) ∧ s.same t = decide (i = j)

/-- `s.before? t`: of two readings one alone is before the other. -/
theorem DateTime.before?_asymm {s t : DateTime} (h : s.before? t = some true) :
    t.before? s ≠ some true := by
  intro h'
  unfold before? at h h'
  split at h
  · next hzone =>
    rw [if_pos hzone.symm] at h'
    simp only [Option.some.injEq, decide_eq_true_eq] at h h'
    omega
  · next hzone =>
    rw [if_neg (Ne.symm hzone)] at h'
    cases hs : s.instant? with
    | none => simp [hs] at h
    | some i =>
      cases ht : t.instant? with
      | none => simp [hs, ht] at h
      | some j =>
        simp only [hs, ht, Option.some.injEq, decide_eq_true_eq] at h h'
        omega

namespace Literal

/-- The exact value of a literal that is a number, and the instant of one that is a reading. -/
def rank : Literal → Int
  | bool b => Number.ofBool b * Double.one
  | int n => n * Double.one
  | double (.finite s u _) => Double.signed s u
  | date t => t.instant?.getD t.wallClock
  | _ => 0

/-- The characters of a literal that is a text. -/
def letters : Literal → String
  | text s => s
  | _ => ""

/-- What literals of one kind are ordered by: `rank`, and then `letters`. -/
def key (l : Literal) : ℤ ×ₗ String := toLex (l.rank, l.letters)

/-- Whether a literal is a reading without an offset. -/
def isNaive : Literal → Bool
  | date t => t.offset.isNone
  | _ => false

/-- That `a` and `b`, if they are readings, are compared as their instants are. -/
def ByInstant (a b : Literal) : Prop := ∀ s t, a = date s → b = date t → s.ByInstant t

variable {a b : Literal}

/-- `a.tag = b.tag`: two literals of one kind are both numbers, both texts or both readings. -/
theorem cases_of_tag_eq (h : a.tag = b.tag) :
    (∃ m n, a.number? = some m ∧ b.number? = some n) ∨ (∃ s t, a = text s ∧ b = text t) ∨
      ∃ s t, a = date s ∧ b = date t := by
  cases a <;> cases b <;> cases h
  · exact .inl ⟨_, _, rfl, rfl⟩
  · exact .inl ⟨_, _, rfl, rfl⟩
  · exact .inl ⟨_, _, rfl, rfl⟩
  · exact .inr (.inl ⟨_, _, rfl, rfl⟩)
  · exact .inr (.inr ⟨_, _, rfl, rfl⟩)

/-- `n.quantity = .exact a.rank`: the rank of a finite number is its exact value, and it has no
letters. -/
theorem quantity_of_number? {n : Number} (hn : a.number? = some n) (ha : a.IsFinite) :
    n.quantity = .exact a.rank ∧ a.letters = "" := by
  cases a with
  | double x =>
    cases hn
    cases x with
    | finite s u h => exact ⟨rfl, rfl⟩
    | _ => cases ha
  | text s => cases hn
  | date t => cases hn
  | _ =>
    cases hn
    exact ⟨rfl, rfl⟩

/-- `before?` and `same` compare numbers as such, whatever their kinds. -/
theorem before?_number {m n : Number} (hm : a.number? = some m) (hn : b.number? = some n) :
    (Value.ofLiteral a).before? (.ofLiteral b) = some (m.lt n) ∧
      (Value.ofLiteral a).same (.ofLiteral b) = m.eq n := by
  have hvalue : (Value.ofLiteral b).number? = some n := by cases b <;> exact hn
  -- Of the second value nothing but its number is looked at.
  generalize Value.ofLiteral b = v at hvalue ⊢
  cases a <;> cases hm <;> simp [Value.ofLiteral, Value.before?, Value.same, hvalue]

/-- `(date t).isNaive = true ↔ t.zone = none`: A literal that is a naive reading has no zone. -/
theorem isNaive_date_iff {t : DateTime} : (date t).isNaive = true ↔ t.zone = none := by
  rw [isNaive, Option.isNone_iff_eq_none, DateTime.offset_eq_none_iff]

/-- `s.before? t` is there if both readings are naive or both are aware. -/
theorem isSome_before?_date {s t : DateTime} (h : (date s).isNaive = (date t).isNaive) :
    (s.before? t).isSome := by
  rw [DateTime.before?]
  split
  · rfl
  · next hzone =>
    rw [Bool.eq_iff_iff, isNaive_date_iff, isNaive_date_iff] at h
    cases hs : s.zone with
    | none => exact absurd (hs.trans (h.mp hs).symm) hzone
    | some y =>
      cases ht : t.zone with
      | none => exact absurd ((h.mpr ht).trans ht.symm) hzone
      | some z =>
        simp only [DateTime.instant?, DateTime.offset, hs, ht, Option.map_some]
        rfl

/-- `(before? a b).isSome`: literals of one kind are ordered unless one is a naive reading and the
other an aware one. -/
theorem isSome_before?_ofLiteral (htag : a.tag = b.tag) (hnaive : a.isNaive = b.isNaive) :
    ((Value.ofLiteral a).before? (.ofLiteral b)).isSome := by
  rcases cases_of_tag_eq htag with ⟨m, n, hm, hn⟩ | ⟨s, t, rfl, rfl⟩ | ⟨s, t, rfl, rfl⟩
  · rw [(before?_number hm hn).1]
    rfl
  · rw [Value.ofLiteral, Value.ofLiteral, Value.before?]
    rfl
  · rw [Value.ofLiteral, Value.ofLiteral, Value.before?]
    exact isSome_before?_date hnaive

/-- `before? a b`: of two literals of one kind one alone is before the other. -/
theorem before?_asymm (htag : a.tag = b.tag) (ha : a.IsFinite) (hb : b.IsFinite)
    (h : (Value.ofLiteral a).before? (.ofLiteral b) = some true) :
    (Value.ofLiteral b).before? (.ofLiteral a) ≠ some true := by
  rcases cases_of_tag_eq htag with ⟨m, n, hm, hn⟩ | ⟨s, t, rfl, rfl⟩ | ⟨s, t, rfl, rfl⟩
  · rw [(before?_number hm hn).1] at h
    rw [(before?_number hn hm).1]
    simp only [Number.lt, (quantity_of_number? hm ha).1, (quantity_of_number? hn hb).1,
      Quantity.lt, Option.some.injEq, decide_eq_true_eq, Ne] at h ⊢
    omega
  · simp only [Value.ofLiteral, Value.before?, Option.some.injEq, decide_eq_true_eq, Ne] at h ⊢
    exact h.asymm
  · simp only [Value.ofLiteral, Value.before?] at h ⊢
    exact DateTime.before?_asymm h

/-- `before? a b = none`: A naive reading is not ordered with an aware one. -/
theorem before?_eq_none (hnaive : a.isNaive ≠ b.isNaive) (htag : a.tag = b.tag) :
    (Value.ofLiteral a).before? (.ofLiteral b) = none := by
  rcases cases_of_tag_eq htag with ⟨m, n, hm, hn⟩ | ⟨s, t, rfl, rfl⟩ | ⟨s, t, rfl, rfl⟩
  · cases a <;> cases hm <;> cases b <;> cases hn <;> exact absurd rfl hnaive
  · exact absurd rfl hnaive
  · have hzone : s.zone ≠ t.zone := by
      intro hzone
      exact hnaive (Bool.eq_iff_iff.mpr (by rw [isNaive_date_iff, isNaive_date_iff, hzone]))
    simp only [isNaive] at hnaive
    simp only [Value.ofLiteral, Value.before?, DateTime.before?, if_neg hzone, DateTime.instant?]
    cases hs : s.offset <;> cases ht : t.offset <;> simp_all

/-- Literals of one kind are compared by `before?` alone. -/
theorem kindBefore?_ofLiteral (htag : a.tag = b.tag) :
    (Value.ofLiteral a).kindBefore? (.ofLiteral b) =
      (Value.ofLiteral a).before? (.ofLiteral b) := by
  have hname : (Value.ofLiteral a).typeName = (Value.ofLiteral b).typeName := by
    cases a <;> cases b <;> cases htag <;> rfl
  rw [Value.kindBefore?, if_pos hname]

/-- The key of `v`, if it is a literal. -/
def valueKey (v : Value) : ℤ ×ₗ String := (v.literal?.map key).getD (toLex (0, ""))

/-- `valueKey (.ofLiteral l) = l.key`. -/
@[simp] theorem valueKey_ofLiteral (l : Literal) : valueKey (.ofLiteral l) = l.key := by
  simp [valueKey]

variable {ls : List Literal} {tag : Tag}

/-- `sortedByKind? (ls.map .ofLiteral) = none`: literals of one kind cannot be sorted if there are
naive and aware readings among them. -/
theorem sortedByKind?_map_eq_none (hls : ∀ l ∈ ls, l.tag = tag) {a b : Literal} (ha : a ∈ ls)
    (hb : b ∈ ls) (hnaive : a.isNaive ≠ b.isNaive) :
    Value.sortedByKind? (ls.map .ofLiteral) = none := by
  rw [Value.sortedByKind?, Value.sortedBy?_eq_none_iff]
  intro hall
  -- The two stand at different places, so they would have to be ordered.
  have hsymm : Std.Symm fun x y : Value =>
      (x.kindBefore? y).isSome ∧ (y.kindBefore? x).isSome := ⟨fun _ _ h => h.symm⟩
  have hne : Value.ofLiteral a ≠ .ofLiteral b := by
    intro heq
    exact hnaive (by rw [Value.ofLiteral_injective heq])
  have htag : a.tag = b.tag := (hls a ha).trans (hls b hb).symm
  have hsome := (hall.forall (List.mem_map_of_mem ha) (List.mem_map_of_mem hb) hne).1
  rw [kindBefore?_ofLiteral htag, before?_eq_none hnaive htag] at hsome
  cases hsome

end Literal

/-! ## Values that are ordered -/

namespace Value

/-- That `xs` are literals of one kind, any two of them ordered. -/
def AreOrdered (xs : List Value) : Prop :=
  (∃ tag, ∀ x ∈ xs, x.IsScalar ∧ x.tag = tag) ∧ ∀ x ∈ xs, ∀ y ∈ xs, (x.before? y).isSome

/-- That any two readings among `xs` are compared as their instants are. -/
def ReadByInstant (xs : List Value) : Prop :=
  ∀ s t, .datetime s ∈ xs → .datetime t ∈ xs → s.ByInstant t

/-- `ReadByInstant xs`: two literals among values that are compared by instant are so. -/
theorem ReadByInstant.literals {xs : List Value} (h : ReadByInstant xs) {a b : Literal}
    (ha : ofLiteral a ∈ xs) (hb : ofLiteral b ∈ xs) : a.ByInstant b := by
  rintro s t rfl rfl
  exact h s t ha hb

namespace AreOrdered

open Literal (valueKey)

variable {xs ys : List Value}

/-- Two of the values are literals that are compared by their keys. -/
theorem exists_literals (h : AreOrdered xs) {x y : Value} (hx : x ∈ xs) (hy : y ∈ xs) :
    ∃ a b : Literal, x = .ofLiteral a ∧ y = .ofLiteral b ∧ a.tag = b.tag ∧ a.IsFinite ∧
      b.IsFinite ∧ a.isNaive = b.isNaive := by
  obtain ⟨⟨tag, htag⟩, hsome⟩ := h
  obtain ⟨a, rfl, ha⟩ := isScalar_iff.mp (htag x hx).1
  obtain ⟨b, rfl, hb⟩ := isScalar_iff.mp (htag y hy).1
  have hab : a.tag = b.tag := by
    rw [← tag_ofLiteral a, ← tag_ofLiteral b, (htag _ hx).2, (htag _ hy).2]
  refine ⟨a, b, rfl, rfl, hab, ha, hb, ?_⟩
  by_contra hnaive
  have hboth := hsome _ hx _ hy
  rw [Literal.before?_eq_none hnaive hab] at hboth
  cases hboth

/-- `sortedByKind? xs = some sorted`: they can be sorted. -/
theorem exists_sortedByKind? (h : AreOrdered xs) : ∃ sorted, sortedByKind? xs = some sorted := by
  rw [← Option.isSome_iff_exists, Option.isSome_iff_ne_none, Ne, sortedByKind?,
    sortedBy?_eq_none_iff, not_not]
  have hkind : ∀ x ∈ xs, ∀ y ∈ xs, (x.kindBefore? y).isSome := by
    intro x hx y hy
    have hsome := h.2 x hx y hy
    obtain ⟨a, b, rfl, rfl, htag, -⟩ := h.exists_literals hx hy
    rwa [Literal.kindBefore?_ofLiteral htag]
  exact List.pairwise_iff_getElem.mpr fun i j hi hj _ =>
    ⟨hkind _ (List.getElem_mem hi) _ (List.getElem_mem hj),
      hkind _ (List.getElem_mem hj) _ (List.getElem_mem hi)⟩

/-- `x.before? y`: of two of the values one alone is before the other. -/
theorem before?_asymm (h : AreOrdered xs) {x y : Value} (hx : x ∈ xs) (hy : y ∈ xs)
    (hxy : x.before? y = some true) : y.before? x ≠ some true := by
  obtain ⟨a, b, rfl, rfl, htag, ha, hb, -⟩ := h.exists_literals hx hy
  exact Literal.before?_asymm htag ha hb hxy

end AreOrdered

/-- `AreOrdered (ls.map ofLiteral)`: literals of one kind are ordered unless there are naive and
aware readings among them. -/
theorem areOrdered_map {ls : List Literal} {tag : Tag}
    (hls : ∀ l ∈ ls, l.IsFinite ∧ l.tag = tag)
    (hnaive : ∀ a ∈ ls, ∀ b ∈ ls, a.isNaive = b.isNaive) : AreOrdered (ls.map ofLiteral) := by
  refine ⟨⟨tag, fun x hx => ?_⟩, fun x hx y hy => ?_⟩
  · obtain ⟨l, hl, rfl⟩ := List.mem_map.mp hx
    exact ⟨isScalar_iff.mpr ⟨l, rfl, (hls l hl).1⟩, (tag_ofLiteral l).trans (hls l hl).2⟩
  · obtain ⟨a, ha, rfl⟩ := List.mem_map.mp hx
    obtain ⟨b, hb, rfl⟩ := List.mem_map.mp hy
    exact Literal.isSome_before?_ofLiteral ((hls a ha).2.trans (hls b hb).2.symm) (hnaive a ha b hb)

end Value

end ObjectStore
