import Mathlib

/-! # Results of calls in turn

What is known of the parts of a computation that may fail when the whole has returned. -/

namespace ObjectStore

variable {ε α β : Type}

/-- `(x >>= f) = .ok y` only if `x = .ok a` and `f a = .ok y` for some `a`. -/
theorem bind_eq_ok {x : Except ε α} {f : α → Except ε β} {y : β} (h : (x >>= f) = .ok y) :
    ∃ a, x = .ok a ∧ f a = .ok y := by
  cases x with
  | error e => cases h
  | ok a => exact ⟨a, rfl, h⟩

/-- `(x >>= f) = .error e`: of two calls in turn, a failure is that of the first or that of the
second. -/
theorem bind_eq_error {x : Except ε α} {f : α → Except ε β} {e : ε} (h : (x >>= f) = .error e) :
    x = .error e ∨ ∃ a, x = .ok a ∧ f a = .error e := by
  cases x with
  | error e' =>
    cases h
    exact .inl rfl
  | ok a => exact .inr ⟨a, rfl, h⟩

/-- `x.map f = .ok y` only if `x = .ok a` and `f a = y` for some `a`. -/
theorem map_eq_ok {x : Except ε α} {f : α → β} {y : β} (h : x.map f = .ok y) :
    ∃ a, x = .ok a ∧ f a = y := by
  cases x with
  | error e => cases h
  | ok a =>
    cases h
    exact ⟨a, rfl, rfl⟩

/-- `x.map f = .error e` only if `x = .error e`. -/
theorem map_eq_error {x : Except ε α} {f : α → β} {e : ε} (h : x.map f = .error e) :
    x = .error e := by
  cases x with
  | error e' =>
    cases h
    rfl
  | ok a => cases h

/-- `x.mapError f = .ok y` only if `x = .ok y`. -/
theorem mapError_eq_ok {ε' : Type} {x : Except ε α} {f : ε → ε'} {y : α}
    (h : x.mapError f = .ok y) : x = .ok y := by
  cases x with
  | error e => cases h
  | ok a =>
    cases h
    rfl

/-- `xs.mapM f = .ok ys`: A check of each of some items returns what it returns on each of them. -/
theorem forall₂_of_mapM_eq_ok {f : α → Except ε β} {xs : List α} {ys : List β}
    (h : xs.mapM f = .ok ys) : List.Forall₂ (fun x y => f x = .ok y) xs ys := by
  induction xs generalizing ys with
  | nil =>
    cases h
    exact .nil
  | cons x xs ih =>
    rw [List.mapM_cons] at h
    obtain ⟨y, hy, h⟩ := bind_eq_ok h
    obtain ⟨zs, hzs, h⟩ := bind_eq_ok h
    cases h
    exact .cons hy (ih hzs)

/-- `xs.mapM f = .ok ys` if `f` takes each item of `xs` to the item of `ys` at its place. -/
theorem mapM_eq_ok_of_forall₂ {f : α → Except ε β} {xs : List α} {ys : List β}
    (h : List.Forall₂ (fun x y => f x = .ok y) xs ys) : xs.mapM f = .ok ys := by
  induction h with
  | nil => rfl
  | cons hy _ ih =>
    rw [List.mapM_cons, hy, ih]
    rfl

/-- `xs.mapM f = .ok ys`: A check of each of some items is passed exactly if it is passed by each of
them. -/
theorem exists_mapM_eq_ok_iff {f : α → Except ε β} {xs : List α} :
    (∃ ys, xs.mapM f = .ok ys) ↔ ∀ x ∈ xs, ∃ y, f x = .ok y := by
  induction xs with
  | nil =>
    constructor
    · exact fun _ _ hx => nomatch hx
    · exact fun _ => ⟨[], rfl⟩
  | cons x xs ih =>
    rw [List.forall_mem_cons, ← ih]
    constructor
    · rintro ⟨ys, h⟩
      cases forall₂_of_mapM_eq_ok h with
      | cons hy hys => exact ⟨⟨_, hy⟩, _, mapM_eq_ok_of_forall₂ hys⟩
    · rintro ⟨⟨y, hy⟩, ys, hys⟩
      exact ⟨y :: ys, mapM_eq_ok_of_forall₂ (.cons hy (forall₂_of_mapM_eq_ok hys))⟩

/-- `(x :: xs).mapM f = (xs.mapM f).map (y :: ·)`: an item that passes is put before what the others
come to. -/
theorem mapM_cons_of_eq_ok {f : α → Except ε β} {x : α} {y : β} (h : f x = .ok y) (xs : List α) :
    (x :: xs).mapM f = (xs.mapM f).map (y :: ·) := by
  rw [List.mapM_cons, h]
  cases xs.mapM f <;> rfl

/-- `(x :: xs).mapM f = .error e`: A first item that fails is what the whole fails with. -/
theorem mapM_cons_of_eq_error {f : α → Except ε β} {x : α} {e : ε} (h : f x = .error e)
    (xs : List α) : (x :: xs).mapM f = .error e := by
  rw [List.mapM_cons, h]
  rfl

/-- `xs.mapM f = .error e`: A check of each of some items fails as it does on the first that it
fails on. -/
theorem mapM_eq_error_iff {f : α → Except ε β} {xs : List α} {e : ε} :
    xs.mapM f = .error e ↔ ∃ before x after, xs = before ++ x :: after ∧
      (∀ w ∈ before, ∃ y, f w = .ok y) ∧ f x = .error e := by
  constructor
  · induction xs with
    | nil => exact fun h => nomatch h
    | cons x xs ih =>
      intro h
      cases hx : f x with
      | error e' =>
        -- `f x = .error e'`: the first item decides.
        rw [mapM_cons_of_eq_error hx] at h
        cases h
        exact ⟨[], x, xs, rfl, fun _ hw => (nomatch hw), hx⟩
      | ok y =>
        -- `f x = .ok y`: the one that fails is among the rest, and `x` is before it.
        rw [mapM_cons_of_eq_ok hx] at h
        obtain ⟨before, z, after, rfl, hbefore, hz⟩ := ih (map_eq_error h)
        refine ⟨x :: before, z, after, rfl, ?_, hz⟩
        exact List.forall_mem_cons.2 ⟨⟨y, hx⟩, hbefore⟩
  · rintro ⟨before, x, after, rfl, hbefore, hx⟩
    induction before with
    | nil => exact mapM_cons_of_eq_error hx after
    | cons w before ih =>
      obtain ⟨⟨y, hy⟩, hbefore⟩ := List.forall_mem_cons.1 hbefore
      rw [List.cons_append, mapM_cons_of_eq_ok hy, ih hbefore]
      rfl

/-- `xs.mapM f = .error e`: A check of each of some items fails as it does on one of them. -/
theorem exists_of_mapM_eq_error {f : α → Except ε β} {xs : List α} {e : ε}
    (h : xs.mapM f = .error e) : ∃ x ∈ xs, f x = .error e := by
  obtain ⟨before, x, after, rfl, -, hx⟩ := mapM_eq_error_iff.1 h
  exact ⟨x, List.mem_append_right _ List.mem_cons_self, hx⟩

end ObjectStore
