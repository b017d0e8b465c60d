import ObjectStore.Failure.Basic

/-! # Empty selections

What a query does when no fields are asked for and there are no default ones. -/

namespace ObjectStore

/-- What to do without fields. -/
inductive EmptySelection
  /-- Select the identifier alone. -/
  | idOnly
  /-- Refuse the query. -/
  | raise
deriving DecidableEq, Repr

namespace EmptySelection

/-- Both policies. -/
def all : List EmptySelection := [idOnly, raise]

def name : EmptySelection → String
  | idOnly => "id_only"
  | raise => "raise"

/-- The policy of a name. -/
def ofName? (s : String) : Option EmptySelection := all.find? (·.name == s)

/-- `ofName? p.name = some p`: every policy is found by its name. -/
theorem ofName?_name (p : EmptySelection) : ofName? p.name = some p := by cases p <;> decide

/-- The policy that a value names. -/
def ofValue (v : Value) : Except Failure EmptySelection :=
  match v.text?.bind ofName? with
  | some p => .ok p
  | none => .error (.unusable v (.notMember "EmptySelection" v))

end EmptySelection

end ObjectStore
