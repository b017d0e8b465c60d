import ObjectStore.Filter.Basic
import ObjectStore.Validate
import ObjectStore.Value.Order

/-! # Building filters

The ways to make a filter from values of any kind. Each checks its arguments; what it returns is a
tree whose leaves have named properties and literals that fit their operators, and whose inner nodes
have at least one operand.

* `Filter.compare`, `Filter.checkNull`, `Filter.join`: the three kinds of nodes.
* `Filter.allOf`, `Filter.anyOf`: filters joined by a connective.
* `Filter.ofCriteria`: the filter of a mapping from properties to expected values.
* `PropertyCondition`, `IdCondition`: conditions on a property and on the object's identifier. -/

namespace ObjectStore.Filter

/-- The objection `i` as a failure. -/
def reject {α : Type} (i : Invalid) : Except Failure α := .error (.invalid i)

/-- The result `r` of a check as that of a call. -/
def checked {α : Type} (r : Except Invalid α) : Except Failure α := r.mapError Failure.invalid

/-- The candidates of a membership test in the order in which they are held: a list or a tuple as it
is, a set by kind and then ascending. -/
def candidateItems : Value → Except Failure (List Value)
  | .list xs => .ok xs
  | .tuple xs => .ok xs
  | .set xs => sortedCandidates xs
  | .frozenset xs => sortedCandidates xs
  | _ => reject .candidatesNotList
where
  /-- The candidates of a set in ascending order. -/
  sortedCandidates (xs : List Value) : Except Failure (List Value) :=
    match Value.sortedByKind? xs with
    | some ys => .ok ys
    | none => .error (.misuse (.unordered "<" "set" "set"))

/-- The names of the kinds of `ls`, each once and ascending. -/
def tagNames (ls : List Literal) : List String :=
  let names := ls.map fun l => l.tag.name
  names.eraseDups.mergeSort fun a b => decide (a ≤ b)

/-- The candidates of a membership test in `v`: at least one literal, all of one kind. -/
def candidates (v : Value) : Except Failure (List Literal) := do
  let items ← candidateItems v
  if items.isEmpty then reject .noCandidates
  else
    let literals ← checked (items.mapM (Validate.literal "contains_any value"))
    let names := tagNames literals
    if 1 < names.length then reject (.candidatesMixed names) else .ok literals

/-- The operator that `v` names. The objection to any other value shows the value. -/
def operatorOf (v : Value) : Except Failure Operator :=
  match v.text?.bind Operator.ofName? with
  | some op => .ok op
  | none =>
    .error ((Failure.rejected v (.unknownOperator v)).causedBy
      (.unusable v (.notMember "FilterOperator" v)))

/-- The operand of a comparison on `property`: a membership test takes `candidates`, a pattern match
a text, every other operator a literal. -/
def operandOf (property : String) : Operator → Value → Except Failure Operand
  | .containsAny, v => (candidates v).map .many
  | .like, .text pattern => .ok (.single (.text pattern))
  | .like, v => reject (.patternNotText v.typeName)
  | _, v => (checked (Validate.literal ("value for '" ++ property ++ "'") v)).map .single

/-- The comparison of `property` with `value` by `operator`. -/
def compare (property operator value : Value) : Except Failure Filter := do
  let name ← checked (Validate.propertyName property)
  let op ← operatorOf operator
  if op = .isNull then reject .nullOperator
  else
    let operand ← operandOf name op value
    .ok (comparison name op operand)

/-- The test that `property` is null, or with a false `isNull` that it is not. -/
def checkNull (property isNull : Value) : Except Failure Filter := do
  let name ← checked (Validate.propertyName property)
  match isNull with
  | .bool b => .ok (nullCheck name b)
  | _ => reject .nullFlagNotBool

/-- The filters in a list of values; `builder` is the name of the function that joins them. -/
def operandFilters (builder : String) : List Value → Except Failure (List Filter)
  | [] => .ok []
  | .filter f :: vs => (operandFilters builder vs).map (f :: ·)
  | v :: _ => reject (.operandNotFilter builder v.typeName)

/-- The operands in `v` of a combined filter: at least one filter. -/
def operandsOf (builder : String) (v : Value) : Except Failure (List Filter) :=
  match v with
  | .null => reject (.operandsNotSequence builder)
  | .filter _ => reject (.operandsNotSequence builder)
  | _ =>
    match v.items? with
    | none => .error (.misuse (.notIterable v.typeName))
    | some items =>
      if items.isEmpty then reject (.noOperands builder) else operandFilters builder items

/-- The filters in `operands` joined by `kind`. -/
def joinBy (kind : Connective) (operands : Value) : Except Failure Filter :=
  (operandsOf kind.builderName operands).map (conjunction kind)

/-- The connective that `v` names. The objection to any other value shows the value. -/
def connectiveOf (v : Value) : Except Failure Connective :=
  match v.text?.bind Connective.ofName? with
  | some c => .ok c
  | none =>
    .error ((Failure.rejected v (.unknownConnective v)).causedBy
      (.unusable v (.notMember "ConjunctionKind" v)))

/-- The filters in `operands` joined by the connective that `kind` names. -/
def join (operands kind : Value) : Except Failure Filter := do
  let c ← connectiveOf kind
  joinBy c operands

/-- The filter that asks for every one of `operands`. -/
def allOf (operands : Value) : Except Failure Filter := joinBy .and operands

/-- The filter that asks for at least one of `operands`. -/
def anyOf (operands : Value) : Except Failure Filter := joinBy .or operands

/-- The condition that `property` is `value`: null is tested for, any other value compared with. -/
def criterion (property value : Value) : Except Failure Filter := do
  let name ← checked (Validate.propertyName property)
  match value with
  | .null => .ok (nullCheck name true)
  | _ => compare (.text name) (.text Operator.equal.name) value

/-- The filter of some conditions: none for none, one for itself, more joined by *and*. -/
def ofConditions : List Filter → Option Filter
  | [] => none
  | [f] => some f
  | fs => some (conjunction .and fs)

/-- The filter of a mapping from properties to expected values; an empty mapping and null have
none. -/
def ofCriteria : Value → Except Failure (Option Filter)
  | .null => .ok none
  | .dict entries => (entries.mapM fun e => criterion e.1 e.2).map ofConditions
  | v => reject (.criteriaNotMapping v.typeName)

end Filter

/-- A condition on a named property. -/
structure PropertyCondition where
  property : String
deriving DecidableEq, Repr

namespace PropertyCondition

/-- A condition on the property that `name` names. -/
def named (name : Value) : Except Failure PropertyCondition :=
  (Filter.checked (Validate.propertyName name)).map PropertyCondition.mk

/-- The comparison of the property by an operator. -/
def compare (p : PropertyCondition) (op : Operator) (value : Value) : Except Failure Filter :=
  Filter.compare (.text p.property) (.text op.name) value

/-- The test by `flag` that the property of `p` is null, or that it is not. -/
def isNull (p : PropertyCondition) (flag : Value) : Except Failure Filter :=
  Filter.checkNull (.text p.property) flag

/-- The comparisons by the names of their methods; most have a short and a long name. -/
def methods : List (String × Operator) :=
  [("equal", .equal), ("eq", .equal), ("not_equal", .notEqual), ("ne", .notEqual),
   ("greater_than", .greaterThan), ("gt", .greaterThan),
   ("greater_than_or_equal", .greaterThanOrEqual), ("gte", .greaterThanOrEqual),
   ("less_than", .lessThan), ("lt", .lessThan),
   ("less_than_or_equal", .lessThanOrEqual), ("lte", .lessThanOrEqual),
   ("like", .like), ("contains_any", .containsAny)]

/-- The condition that `method` makes of `args`. -/
def call (p : PropertyCondition) (method : String) (args : List Value) : Except Failure Filter :=
  if method = "is_null" then
    match args with
    | [] => p.isNull (.bool true)
    | [flag] => p.isNull flag
    | _ => .error (.misuse (.missingArgument method))
  else
    match methods.lookup method, args with
    | none, _ => .error .missingAttribute
    | some op, [value] => p.compare op value
    | some _, _ => .error (.misuse (.missingArgument method))

end PropertyCondition

namespace IdCondition

/-- The property that holds the identifier of an object. -/
def path : String := "id"

/-- An identifier: a text that is not empty. -/
def objectId : Value → Except Invalid String
  | .text s => if s.isEmpty then .error .badObjectId else .ok s
  | _ => .error .badObjectId

/-- The comparison of the identifier by an operator. -/
def compare (op : Operator) (value : Value) : Except Failure Filter := do
  let id ← Filter.checked (objectId value)
  Filter.compare (.text path) (.text op.name) (.text id)

/-- The test that the identifier is one of those in `value`. -/
def containsAny (value : Value) : Except Failure Filter := do
  let ids ← Filter.candidates value
  let _ ← Filter.checked (ids.mapM fun l => objectId (.ofLiteral l))
  Filter.compare (.text path) (.text Operator.containsAny.name) (.tuple (ids.map Value.ofLiteral))

/-- The condition that a method with some arguments makes. -/
def call (method : String) (args : List Value) : Except Failure Filter :=
  match method, args with
  | "equal", [v] => compare .equal v
  | "not_equal", [v] => compare .notEqual v
  | "contains_any", [v] => containsAny v
  | "equal", _ => .error (.misuse (.missingArgument method))
  | "not_equal", _ => .error (.misuse (.missingArgument method))
  | "contains_any", _ => .error (.misuse (.missingArgument method))
  | _, _ => .error .missingAttribute

end IdCondition

end ObjectStore
