import ObjectStore.Failure.Basic
import ObjectStore.Filter.Basic

/-! # The form in which filters are sent

A leaf is sent as a mapping of its path, its operator and its literal under the key of the literal's
kind; an inner node as a mapping of its operator and its operands. Points in time are sent as
stamps. A bare node has no such form. -/

namespace ObjectStore

/-- The value that is sent for a literal. -/
def Literal.wire : Literal → Value
  | .date t => .text (String.ofList t.stamp)
  | l => .ofLiteral l

/-- The kind under which the operand `v` is sent: that of its first literal. -/
def Operand.tag (v : Operand) : Tag := ((v.literals.head?).map Literal.tag).getD .text

/-- The value that is sent for an operand. -/
def Operand.wire : Operand → Value
  | .single v => v.wire
  | .many vs => .list (vs.map Literal.wire)

namespace Filter

/-- The entries that every leaf is sent with: the path to `property`, the operator, and `value`
below `key`. -/
def leafEntries (property : String) (op : Operator) (key : Tag) (value : Value) : Entries :=
  [(.text "path", .list [.text property]), (.text "operator", .text op.wireName),
   (.text key.name, value)]

mutual

/-- The form in which a filter is sent. -/
def wire : Filter → Except Failure Value
  | bare => .error .notImplemented
  | comparison p op v => .ok (.dict (leafEntries p op v.tag v.wire))
  | nullCheck p b => .ok (.dict (leafEntries p .isNull .boolean (.bool b)))
  | conjunction k fs =>
    (wireAll fs).map fun items =>
      .dict [(.text "operator", .text k.wireName), (.text "operands", .list items)]

/-- The forms in which some filters are sent. -/
def wireAll : List Filter → Except Failure (List Value)
  | [] => .ok []
  | f :: fs => do
    let item ← wire f
    let items ← wireAll fs
    .ok (item :: items)

end

end Filter

end ObjectStore
