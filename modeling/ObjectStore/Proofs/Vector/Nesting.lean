import Mathlib
import ObjectStore.Vector

/-! # Regular nestings

A nesting is regular if the items at each depth are either all innermost ones or all nested, with
the same number of items each. The shape that is found of a value is whole exactly if the value is a
regular nesting, and then it is the numbers of items from the outside in.

* `Vector.HasShape`: the regular nestings of a shape.
* `Vector.shapeOf_eq_iff`: the shape that is found, and when it is whole.
* `Vector.hasShape_singleton_iff`: the nestings of one depth, whose innermost items are their
  items. -/

namespace ObjectStore.Vector

variable {v x : Value} {items : List Value} {shape : List Nat}

/-- The regular nestings of a shape. An item that is not nested has the empty shape; where there are
no items, the nesting ends. -/
inductive HasShape : Value → List Nat → Prop
  | item {v : Value} (h : parts? v = none) : HasShape v []
  | empty {v : Value} (h : parts? v = some []) : HasShape v [0]
  | nested {v : Value} {items : List Value} {shape : List Nat} (h : parts? v = some items)
      (hne : items ≠ []) (hitems : ∀ x ∈ items, HasShape x shape) :
      HasShape v (items.length :: shape)

/-! ## Items of a nesting -/

/-- `shapeOf v = ([], true)` for an item that is not nested. -/
theorem shapeOf_of_parts?_none (h : parts? v = none) : shapeOf v = ([], true) := by
  cases v <;> first | rfl | cases h

/-- `shapeOf v = nestedShape items` for a nesting of `items`. -/
theorem shapeOf_of_parts? (h : parts? v = some items) : shapeOf v = nestedShape items := by
  cases v <;> cases h <;> rfl

/-- `leaves v = [v]` for an item that is not nested. -/
theorem leaves_of_parts?_none (h : parts? v = none) : leaves v = [v] := by
  cases v <;> first | rfl | cases h

/-- `leaves v = allLeaves items` for a nesting of `items`. -/
theorem leaves_of_parts? (h : parts? v = some items) : leaves v = allLeaves items := by
  cases v <;> cases h <;> rfl

/-- `sizeOf x < sizeOf v`: the items of a nesting are smaller than it. -/
theorem sizeOf_lt_of_mem_parts? (h : parts? v = some items) (hx : x ∈ items) :
    sizeOf x < sizeOf v := by
  have hlt := List.sizeOf_lt_of_mem hx
  cases v <;> cases h
  · rw [Value.list.sizeOf_spec]
    omega
  · rw [Value.tuple.sizeOf_spec]
    omega

/-- `allLeaves items = items`: the innermost items of items that are not nested are these items. -/
theorem allLeaves_eq_self (h : ∀ x ∈ items, parts? x = none) : allLeaves items = items := by
  induction items with
  | nil => rfl
  | cons x xs ih =>
    obtain ⟨hx, hxs⟩ := List.forall_mem_cons.1 h
    rw [allLeaves, leaves_of_parts?_none hx, ih hxs]
    rfl

/-! ## The shape that is found -/

/-- `commonShape a b = (shape, true) ↔ a = shape ∧ b = shape`: two shapes agree to the end exactly
if they are the same. -/
theorem commonShape_eq_iff {a b : List Nat} :
    commonShape a b = (shape, true) ↔ a = shape ∧ b = shape := by
  fun_induction commonShape a b generalizing shape with
  | case1 => simp
  | case2 ms n ns s whole hcommon ih =>
    rw [Prod.mk.injEq]
    constructor
    · rintro ⟨rfl, rfl⟩
      obtain ⟨rfl, rfl⟩ := ih.1 hcommon
      exact ⟨rfl, rfl⟩
    · rintro ⟨rfl, h⟩
      have hsame := ih.2 ⟨rfl, (List.cons.inj h).2⟩
      rw [hcommon] at hsame
      cases hsame
      exact ⟨rfl, rfl⟩
  | case3 m ms n ns hne =>
    constructor
    · exact fun h => nomatch (Prod.mk.inj h).2
    · rintro ⟨rfl, h⟩
      exact absurd (List.cons.inj h).1.symm hne
  | case4 a b hnil hcons =>
    -- One of the shapes has ended before the other.
    constructor
    · exact fun h => nomatch (Prod.mk.inj h).2
    · rintro ⟨rfl, rfl⟩
      cases b with
      | nil => exact absurd rfl (hnil rfl)
      | cons n ns => exact absurd rfl (hcons _ _ _ _ rfl)

/-- `nestedShape (x :: y :: ys)` counts one item more and keeps what is common to all shapes. -/
theorem nestedShape_cons_cons {y : Value} {ys : List Value} {n : Nat} {rest : List Nat}
    {restWhole : Bool} (h : nestedShape (y :: ys) = (n :: rest, restWhole)) (x : Value) :
    nestedShape (x :: y :: ys) =
      ((n + 1) :: (commonShape (shapeOf x).1 rest).1,
        (commonShape (shapeOf x).1 rest).2 && (shapeOf x).2 && restWhole) := by
  rw [nestedShape, h]

/-- `nestedShape (x :: xs)` begins with the number of items. -/
theorem exists_nestedShape_cons (x : Value) (xs : List Value) :
    ∃ rest whole, nestedShape (x :: xs) = ((xs.length + 1) :: rest, whole) := by
  induction xs generalizing x with
  | nil => exact ⟨_, _, rfl⟩
  | cons y ys ih =>
    obtain ⟨rest, whole, h⟩ := ih y
    exact ⟨_, _, nestedShape_cons_cons h x⟩

/-- `nestedShape (x :: xs) = (shape, true)`: the shape of some items is whole exactly if they have
one shape, which is whole. -/
theorem nestedShape_cons_eq_iff (x : Value) (xs : List Value) :
    nestedShape (x :: xs) = (shape, true) ↔
      ∃ s, shape = (xs.length + 1) :: s ∧ ∀ y ∈ x :: xs, shapeOf y = (s, true) := by
  induction xs generalizing x shape with
  | nil =>
    rw [nestedShape]
    constructor
    · intro h
      obtain ⟨rfl, hwhole⟩ := Prod.mk.inj h
      refine ⟨_, rfl, fun y hy => ?_⟩
      rw [List.mem_singleton.1 hy]
      exact Prod.ext rfl hwhole
    · rintro ⟨s, rfl, hall⟩
      rw [hall x List.mem_cons_self]
      rfl
  | cons y ys ih =>
    obtain ⟨rest, restWhole, hrest⟩ := exists_nestedShape_cons y ys
    rw [nestedShape_cons_cons hrest]
    constructor
    · intro h
      obtain ⟨rfl, hwhole⟩ := Prod.mk.inj h
      rw [Bool.and_eq_true, Bool.and_eq_true] at hwhole
      obtain ⟨⟨hcommon, hfirst⟩, rfl⟩ := hwhole
      obtain ⟨s, hs, hall⟩ := (ih y).1 hrest
      obtain ⟨-, rfl⟩ := List.cons.inj hs
      -- The first item has the whole shape that the items behind it have in common.
      obtain ⟨hx, hrestEq⟩ := commonShape_eq_iff.1 (Prod.ext rfl hcommon)
      refine ⟨rest, congrArg _ hrestEq.symm, List.forall_mem_cons.2 ⟨?_, hall⟩⟩
      exact Prod.ext (hx.trans hrestEq.symm) hfirst
    · rintro ⟨s, rfl, hall⟩
      obtain ⟨hx, hys⟩ := List.forall_mem_cons.1 hall
      rw [(ih y).2 ⟨s, rfl, hys⟩] at hrest
      cases hrest
      rw [hx, commonShape_eq_iff.2 ⟨rfl, rfl⟩]
      rfl

/-- `shapeOf v = (shape, true)`: A value whose shape is whole is a regular nesting; the items of a
nesting are smaller than it. -/
theorem hasShape_of_shapeOf (v : Value) {shape : List Nat} (h : shapeOf v = (shape, true)) :
    HasShape v shape := by
  cases hv : parts? v with
  | none =>
    rw [shapeOf_of_parts?_none hv] at h
    cases h
    exact .item hv
  | some items =>
    rw [shapeOf_of_parts? hv] at h
    cases items with
    | nil =>
      cases h
      exact .empty hv
    | cons x xs =>
      -- All items have the shape of the first, and each is smaller than `v`.
      obtain ⟨s, rfl, hall⟩ := (nestedShape_cons_eq_iff x xs).1 h
      exact .nested hv (List.cons_ne_nil x xs) fun y hy => hasShape_of_shapeOf y (hall y hy)
termination_by sizeOf v
decreasing_by exact sizeOf_lt_of_mem_parts? hv hy

/-- `shapeOf v = (shape, true) ↔ HasShape v shape`: the shape that is found of a value is whole
exactly if the value is a regular nesting. -/
theorem shapeOf_eq_iff : shapeOf v = (shape, true) ↔ HasShape v shape := by
  constructor
  · exact hasShape_of_shapeOf v
  · intro h
    induction h with
    | item hv => exact shapeOf_of_parts?_none hv
    | empty hv => rw [shapeOf_of_parts? hv, nestedShape]
    | @nested v items shape hv hne _ ih =>
      obtain ⟨x, xs, rfl⟩ := List.exists_cons_of_ne_nil hne
      rw [shapeOf_of_parts? hv]
      exact (nestedShape_cons_eq_iff x xs).2 ⟨shape, rfl, ih⟩

/-- `HasShape v [n]`: A nesting of one depth is a sequence of items that are not nested. -/
theorem hasShape_singleton_iff {n : Nat} :
    HasShape v [n] ↔
      ∃ items, parts? v = some items ∧ items.length = n ∧ ∀ x ∈ items, parts? x = none := by
  constructor
  · intro h
    cases h with
    | empty hv => exact ⟨[], hv, rfl, fun _ hx => nomatch hx⟩
    | nested hv _ hitems =>
      refine ⟨_, hv, rfl, fun x hx => ?_⟩
      cases hitems x hx with
      | item h => exact h
  · rintro ⟨items, hv, rfl, hitems⟩
    cases items with
    | nil => exact .empty hv
    | cons x xs => exact .nested hv (List.cons_ne_nil x xs) fun y hy => .item (hitems y hy)

end ObjectStore.Vector
