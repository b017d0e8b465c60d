/-! # Scripts

Prepared answers, given one at a time; the last one is given again and again. -/

namespace ObjectStore

/-- Prepared answers in the order in which they are given. -/
abbrev Script (α : Type) := List α

namespace Script

variable {α : Type}

/-- The next answer, if there ever was one, and the script after it. -/
def next : Script α → Option α × Script α
  | [] => (none, [])
  | [a] => (some a, [a])
  | a :: b :: rest => (some a, b :: rest)

/-- `next [] = (none, [])`: nothing comes out of an empty script. -/
@[simp] theorem next_nil : next ([] : Script α) = (none, []) := rfl

/-- `next [a] = (some a, [a])`: the last entry is repeated. -/
@[simp] theorem next_singleton (a : α) : next [a] = (some a, [a]) := rfl

/-- `next (a :: b :: rest) = (some a, b :: rest)`: the first of several entries is used up. -/
@[simp] theorem next_cons_cons (a b : α) (rest : List α) :
    next (a :: b :: rest) = (some a, b :: rest) := rfl

end Script

end ObjectStore
