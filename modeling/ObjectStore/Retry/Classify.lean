import ObjectStore.Failure.Basic

/-! # Kinds of failures

Which kind a failure is of. An answer with an error status counts as a failure of the gateway if its
status is one of the three that gateways give. -/

namespace ObjectStore

/-- The statuses by which a gateway reports that it got no answer. -/
def retriableStatuses : List Nat := [502, 503, 504]

/-- Whether a status code is one of a gateway's. A code that cannot be hashed cannot be looked up,
except that a set is looked up as if it could. -/
def isGatewayStatus (code : Value) : Except Failure Bool :=
  match code with
  | .set _ => .ok false
  | _ =>
    if code.hashable then .ok (retriableStatuses.any fun n => (Value.int n).same code)
    else .error (.misuse (.notHashable code.typeName))

/-- The kind of a failure. -/
def Failure.kind : Failure → Except Failure ErrorKind
  | .library topic _ _ _ =>
    match topic with
    | .connection _ => .ok .connectionFailure
    | .timeout _ => .ok .timeout
    | _ =>
      match topic.statusCode? with
      | some code => (isGatewayStatus code).map fun b => if b then .gatewayStatus else .otherStatus
      | none => .ok .other
  | _ => .ok .other

end ObjectStore
