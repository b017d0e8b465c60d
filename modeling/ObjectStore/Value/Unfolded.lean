import ObjectStore.Failure.Basic
import ObjectStore.Value.Copyable
import ObjectStore.Value.Entries

/-! # Unfolded values

A value in which each filter and each record of a failed attempt is written out as the mapping of
its parts, and everything else is a copy. A bare filter has no parts and stays, and so do the items
of sets. Not every value has such a form: a key that is written out is a mapping and no longer a
key, and some objects cannot be copied.

* `Value.unfolded`: the value with its filters and attempts written out. -/

namespace ObjectStore

namespace Filter

mutual

/-- The mapping of a filter's parts. -/
def unfolded : Filter → Value
  | bare => .filter bare
  | comparison p op v =>
    .dict [(.text "property", .text p), (.text "operator", .text op.name),
      (.text "value", .ofOperand v)]
  | nullCheck p b => .dict [(.text "property", .text p), (.text "is_null", .bool b)]
  | conjunction k fs =>
    .dict [(.text "operands", .tuple (unfoldedAll fs)), (.text "kind", .text k.name)]

/-- The mappings of the parts of some filters. -/
def unfoldedAll : List Filter → List Value
  | [] => []
  | f :: fs => unfolded f :: unfoldedAll fs

end

end Filter

namespace Value

mutual

/-- The value with its filters and attempts written out; the items of sets stay as they are. -/
def unfolded : Value → Except Failure Value
  | filter f => .ok f.unfolded
  | attempt number error errorType kind timestamp delay => do
    let number ← unfolded number
    let error ← unfolded error
    let errorType ← unfolded errorType
    let timestamp ← unfolded timestamp
    let delay ← unfolded delay
    .ok (dict (attemptEntries number error errorType kind timestamp delay))
  | list xs => (unfoldedItems xs).map list
  | tuple xs => (unfoldedItems xs).map tuple
  | dict es => (unfoldedEntries es).map dict
  | foreign o =>
    match o.copying with
    | .possible => .ok (foreign o)
    | .impossible => .error (.misuse (.missingArgument o.typeName))
    | .endless => .error .endless
  | v => if v.copyable then .ok v else .error (.misuse (.missingArgument v.typeName))

/-- Each of some values with its filters and attempts written out. -/
def unfoldedItems : List Value → Except Failure (List Value)
  | [] => .ok []
  | x :: xs => do
    let x ← unfolded x
    let xs ← unfoldedItems xs
    .ok (x :: xs)

/-- Each entry of a mapping with the filters and attempts of its key and its value written out. -/
def unfoldedEntries : List (Value × Value) → Except Failure (List (Value × Value))
  | [] => .ok []
  | (k, v) :: es => do
    let k ← unfolded k
    let v ← unfolded v
    let es ← unfoldedEntries es
    if k.hashable then .ok ((k, v) :: es) else .error (.misuse (.notHashable k.typeName))

end

end Value

end ObjectStore
