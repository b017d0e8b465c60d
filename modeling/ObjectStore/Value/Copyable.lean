import ObjectStore.Value.Basic

/-! # Values that can be copied

A copy of a collection holds copies of its items, and a copy of a mapping copies of its keys and
values. Only foreign objects may refuse to be copied.

* `Value.copyable`: whether a copy of a value can be made. -/

namespace ObjectStore.Value

mutual

/-- Whether a copy of a value can be made. -/
def copyable : Value → Bool
  | list xs => allCopyable xs
  | tuple xs => allCopyable xs
  | set xs => allCopyable xs
  | frozenset xs => allCopyable xs
  | dict es => entriesCopyable es
  | attempt number error errorType _ timestamp delay =>
    copyable number && copyable error && copyable errorType && copyable timestamp && copyable delay
  | foreign o => o.copying = .possible
  | _ => true

/-- Whether a copy of each of some values can be made. -/
def allCopyable : List Value → Bool
  | [] => true
  | x :: xs => copyable x && allCopyable xs

/-- Whether a copy of each key and each value of some entries can be made. -/
def entriesCopyable : List (Value × Value) → Bool
  | [] => true
  | (k, v) :: es => copyable k && copyable v && entriesCopyable es

end

end ObjectStore.Value
