import ObjectStore.Filter.Basic
import ObjectStore.Retry.Attempt

/-! # Values

Arguments, properties, settings and answers are values of any kind: the scalars, texts and bytes,
points in time, four kinds of collection, mappings in insertion order, filters, records of failed
attempts, and foreign objects of which only their texts are known.

* `Value.typeName`: the name of a value's kind, `Value.truthy`: whether it counts as true.
* `Value.items?`: what an iteration over the value yields, if it can be iterated. -/

namespace ObjectStore

/-- Whether a copy of an object can be made; an object that contains itself has no end. -/
inductive Copying
  | possible
  | impossible
  | endless
deriving DecidableEq, Repr

/-- An object of another kind, known by the name of its kind and its two texts. -/
structure Foreign where
  typeName : String
  /-- How a message shows it inside another value. -/
  shown : String
  /-- How it is written on its own. -/
  written : String
  copying : Copying
deriving DecidableEq, Repr

/-- A value of any kind. -/
inductive Value
  | null
  | bool (b : Bool)
  | int (n : Int)
  | double (x : Double)
  | text (s : String)
  | bytes (bs : List UInt8)
  | list (items : List Value)
  | tuple (items : List Value)
  | set (items : List Value)
  | frozenset (items : List Value)
  | dict (entries : List (Value × Value))
  | date (d : Date)
  | datetime (t : DateTime)
  | filter (f : Filter)
  | attempt (number error errorType : Value) (kind : ErrorKind) (timestamp delay : Value)
  | foreign (o : Foreign)
deriving Repr

instance : Inhabited Value := ⟨.null⟩

/-- The entries of a mapping, in insertion order. -/
abbrev Entries := List (Value × Value)

namespace Value

/-- The name of a value's kind. -/
def typeName : Value → String
  | null => "NoneType"
  | bool _ => "bool"
  | int _ => "int"
  | double _ => "float"
  | text _ => "str"
  | bytes _ => "bytes"
  | list _ => "list"
  | tuple _ => "tuple"
  | set _ => "set"
  | frozenset _ => "frozenset"
  | dict _ => "dict"
  | date _ => "date"
  | datetime _ => "datetime"
  | filter f => f.kindName
  | attempt .. => "AttemptRecord"
  | foreign o => o.typeName

/-- The name of a value's kind together with its home, where the kinds of time have one. -/
def qualifiedTypeName : Value → String
  | date _ => "datetime.date"
  | datetime _ => "datetime.datetime"
  | v => v.typeName

/-- Whether a value counts as true: null, zeros and empty collections and texts do not. -/
def truthy : Value → Bool
  | null => false
  | bool b => b
  | int n => n != 0
  | double x => !x.isZero
  | text s => !s.isEmpty
  | bytes bs => !bs.isEmpty
  | list xs => !xs.isEmpty
  | tuple xs => !xs.isEmpty
  | set xs => !xs.isEmpty
  | frozenset xs => !xs.isEmpty
  | dict es => !es.isEmpty
  | _ => true

/-- The number that a value is, if it is one. -/
def number? : Value → Option Number
  | bool b => some (.bool b)
  | int n => some (.int n)
  | double x => some (.double x)
  | _ => none

/-- The text that a value is, if it is one. -/
def text? : Value → Option String
  | text s => some s
  | _ => none

/-- What an iteration over a value yields: the items of a collection, the keys of a mapping, the
characters of a text, the numbers of bytes. -/
def items? : Value → Option (List Value)
  | list xs => some xs
  | tuple xs => some xs
  | set xs => some xs
  | frozenset xs => some xs
  | dict es => some (es.map Prod.fst)
  | text s => some (s.toList.map fun c => text c.toString)
  | bytes bs => some (bs.map fun b => int b.toNat)
  | _ => none

/-- The value of a number. -/
def ofNumber : Number → Value
  | .bool b => bool b
  | .int n => int n
  | .double x => double x

/-- `(ofNumber n).number? = some n`: the value of a number is that number. -/
@[simp] theorem number?_ofNumber (n : Number) : (ofNumber n).number? = some n := by
  cases n <;> rfl

/-- The value of a literal. -/
def ofLiteral : Literal → Value
  | .bool b => bool b
  | .int n => int n
  | .double x => double x
  | .text s => text s
  | .date t => datetime t

/-- The literal that a value is, if it is of a kind that filters compare with. -/
def literal? : Value → Option Literal
  | bool b => some (.bool b)
  | int n => some (.int n)
  | double x => some (.double x)
  | text s => some (.text s)
  | datetime t => some (.date t)
  | _ => none

/-- `(ofLiteral v).literal? = some v`: the value of a literal is that literal. -/
@[simp] theorem literal?_ofLiteral (v : Literal) : (ofLiteral v).literal? = some v := by
  cases v <;> rfl

/-- `v = ofLiteral l` if `v.literal? = some l`: a value that is a literal is the value of it. -/
theorem eq_ofLiteral_of_literal? {v : Value} {l : Literal} (h : v.literal? = some l) :
    v = ofLiteral l := by
  cases v <;> simp [literal?] at h <;> subst h <;> rfl

/-- The kind under which a value is sent; what is of no other kind is sent as a text. -/
def tag (v : Value) : Tag := (v.literal?.map Literal.tag).getD .text

/-- The value of an operand: a list of literals is a tuple. -/
def ofOperand : Operand → Value
  | .single v => ofLiteral v
  | .many vs => tuple (vs.map ofLiteral)

/-- The details of a failed attempt by name. -/
def attemptEntries (number error errorType : Value) (kind : ErrorKind) (timestamp delay : Value) :
    Entries :=
  [(text "number", number), (text "error", error), (text "error_type", errorType),
   (text "kind", text kind.name), (text "timestamp", timestamp), (text "delay_before_next", delay)]

/-- An optional text as a value. -/
def ofText? (s : Option String) : Value := (s.map text).getD null

end Value

end ObjectStore
