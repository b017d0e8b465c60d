import ObjectStore.Value.Basic

/-! # Texts of values

`shown` is how a message shows a value: texts quoted, points in time and filters by their
constructors. `written` is how a value is written on its own: a text as it is, a point in time by
date and clock. -/

namespace ObjectStore.Value

mutual

/-- How a message shows a value. -/
def shown : Value → String
  | null => "None"
  | bool b => truthName b
  | int n => toString n
  | double x => x.text
  | text s => Text.quoted s
  | bytes bs => Text.quotedBytes bs
  | list xs => "[" ++ ", ".intercalate (shownItems xs) ++ "]"
  | tuple xs => Operand.shownTuple (shownItems xs)
  | set xs => if xs.isEmpty then "set()" else "\x7b" ++ ", ".intercalate (shownItems xs) ++ "\x7d"
  | frozenset xs =>
    if xs.isEmpty then "frozenset()"
    else "frozenset(\x7b" ++ ", ".intercalate (shownItems xs) ++ "\x7d)"
  | dict es => "\x7b" ++ ", ".intercalate (shownEntries es) ++ "\x7d"
  | date d => d.shown
  | datetime t => t.shown
  | filter f => f.shown
  | attempt number error errorType kind timestamp delay =>
    "AttemptRecord(number=" ++ shown number ++ ", error=" ++ shown error ++ ", error_type=" ++
      shown errorType ++ ", kind=" ++ kind.shown ++ ", timestamp=" ++ shown timestamp ++
      ", delay_before_next=" ++ shown delay ++ ")"
  | foreign o => o.shown

/-- How a message shows each of some values. -/
def shownItems : List Value → List String
  | [] => []
  | x :: xs => shown x :: shownItems xs

/-- How a message shows each entry of a mapping. -/
def shownEntries : List (Value × Value) → List String
  | [] => []
  | (k, v) :: es => (shown k ++ ": " ++ shown v) :: shownEntries es

end

/-- How a value is written on its own. -/
def written : Value → String
  | text s => s
  | date d => String.ofList d.text
  | datetime t => String.ofList t.text
  | foreign o => o.written
  | v => v.shown

end ObjectStore.Value
