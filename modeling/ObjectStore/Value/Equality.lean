import ObjectStore.Value.Basic

/-! # Equality of values

Numbers are equal by exact value whatever their kinds, points in time as `DateTime.same` compares
them, collections item by item, sets and mappings without regard to order. A mapping or a set takes
as keys only values that can be hashed. -/

namespace ObjectStore.Value

mutual

/-- Whether two values are equal. -/
def same : Value → Value → Bool
  | null, null => true
  | bool a, v => (v.number?.map (Number.bool a).eq).getD false
  | int a, v => (v.number?.map (Number.int a).eq).getD false
  | double a, v => (v.number?.map (Number.double a).eq).getD false
  | text a, text b => a == b
  | bytes a, bytes b => a == b
  | list xs, list ys => sameItems xs ys
  | tuple xs, tuple ys => sameItems xs ys
  | set xs, set ys => xs.length == ys.length && allAmong xs ys
  | set xs, frozenset ys => xs.length == ys.length && allAmong xs ys
  | frozenset xs, set ys => xs.length == ys.length && allAmong xs ys
  | frozenset xs, frozenset ys => xs.length == ys.length && allAmong xs ys
  | dict es, dict fs => es.length == fs.length && allEntriesAmong es fs
  | date a, date b => a == b
  | datetime a, datetime b => a.same b
  | filter f, filter g => f.same g
  | attempt n e t k s d, attempt n' e' t' k' s' d' =>
    same n n' && same e e' && same t t' && k == k' && same s s' && same d d'
  | _, _ => false

/-- Whether two lists are equal item by item. -/
def sameItems : List Value → List Value → Bool
  | [], [] => true
  | x :: xs, y :: ys => same x y && sameItems xs ys
  | _, _ => false

/-- Whether each item of one list is equal to some item of another. -/
def allAmong : List Value → List Value → Bool
  | [], _ => true
  | x :: xs, ys => ys.any (same x ·) && allAmong xs ys

/-- Whether each entry of one mapping is equal to some entry of another. -/
def allEntriesAmong : List (Value × Value) → List (Value × Value) → Bool
  | [], _ => true
  | (k, v) :: es, fs => fs.any (fun e => same k e.1 && same v e.2) && allEntriesAmong es fs

end

/-- `(text a).same (text b) = (a == b)`: texts are equal if their characters are. -/
@[simp] theorem same_text (a b : String) : (text a).same (text b) = (a == b) := by
  rw [same]

mutual

/-- Whether a value may be a key. -/
def hashable : Value → Bool
  | list _ => false
  | set _ => false
  | dict _ => false
  | attempt .. => false
  | tuple xs => allHashable xs
  | _ => true

/-- Whether each of some values may be a key. -/
def allHashable : List Value → Bool
  | [] => true
  | x :: xs => hashable x && allHashable xs

end

end ObjectStore.Value
