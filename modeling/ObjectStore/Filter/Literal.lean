import ObjectStore.Number.Text
import ObjectStore.Text.Quoted
import ObjectStore.Time.Shown

/-! # Literals

The values that a filter leaf compares with: numbers of the three kinds, texts and points in time.
`Tag` names the kinds as they are sent; a whole number, a double and a truth value have tags of
their own although they may be equal. -/

namespace ObjectStore

/-- The kind of a literal, as it is sent. -/
inductive Tag
  | boolean
  | int
  | number
  | date
  | text
deriving DecidableEq, Repr

/-- The key under which a literal of a kind is sent. -/
def Tag.name : Tag → String
  | boolean => "valueBoolean"
  | int => "valueInt"
  | number => "valueNumber"
  | date => "valueDate"
  | text => "valueText"

/-- `a.name = b.name` only if `a = b`: the name of a kind determines it. -/
theorem Tag.name_inj {a b : Tag} (h : a.name = b.name) : a = b := by
  cases a <;> cases b <;> first | rfl | exact absurd h (by decide)

/-- A value that a leaf compares with. -/
inductive Literal
  | bool (b : Bool)
  | int (n : Int)
  | double (x : Double)
  | text (s : String)
  | date (t : DateTime)
deriving DecidableEq, Repr

namespace Literal

def tag : Literal → Tag
  | bool _ => .boolean
  | int _ => .int
  | double _ => .number
  | text _ => .text
  | date _ => .date

/-- The number of a literal that is one. -/
def number? : Literal → Option Number
  | bool b => some (.bool b)
  | int n => some (.int n)
  | double x => some (.double x)
  | _ => none

/-- Whether two literals are equal: numbers by exact value, whatever their kinds; points in time as
`DateTime.same` compares them; texts by characters. -/
def same : Literal → Literal → Bool
  | text s, text t => s == t
  | date s, date t => s.same t
  | a, b =>
    match a.number?, b.number? with
    | some m, some n => m.eq n
    | _, _ => false

/-- How a message shows a literal. -/
def shown : Literal → String
  | bool b => truthName b
  | int n => toString n
  | double x => x.text
  | text s => Text.quoted s
  | date t => t.shown

end Literal

end ObjectStore
