import ObjectStore.Failure.Basic
import ObjectStore.Number.Power

/-! # Retry policies

How often a failed operation is tried again and how long to wait before: the first pause is the base
delay, each further one twice the one before, and none is longer than the greatest delay.

* `RetryPolicy.make`: a policy from values, each checked.
* `RetryPolicy.delay`: the pause before a retry. -/

namespace ObjectStore

/-- How often to try again and how long to wait. -/
structure RetryPolicy where
  /-- The number of attempts after the first. -/
  maxRetries : Nat
  /-- The pause before the first retry, in seconds. -/
  baseDelay : Number
  /-- The longest pause, in seconds. -/
  maxDelay : Number
deriving DecidableEq, Repr

namespace RetryPolicy

/-- A number of seconds as a double. -/
def seconds (num den : Nat) : Number := .double (Double.ofRatio false num den)

/-- The policy in use unless another is asked for. -/
def standard : RetryPolicy := ⟨4, seconds 1 1, seconds 60 1⟩

/-- The policy for operations on connections. -/
def forConnection : RetryPolicy := ⟨3, seconds 1 2, seconds 10 1⟩

/-- The policy for queries. -/
def forQuery : RetryPolicy := ⟨2, seconds 1 1, seconds 30 1⟩

/-- The number of retries that a value gives, if it is not negative. -/
def retriesOf : Value → Except Failure Nat
  | .int n => if n < 0 then .error (.rejected (.int n) (.retriesNegative n)) else .ok n.toNat
  | _ => .error (.invalid .retriesNotWhole)

/-- The delay that `v` gives. To a negative one there is an `objection`; what is neither negative
nor a number cannot be compared with zero. -/
def delayOf (objection : Number → Invalid) (v : Value) : Except Failure Number :=
  match v.number? with
  | none => .error (.misuse (.unordered "<" v.qualifiedTypeName "int"))
  | some x => if x.lt (.int 0) then .error (.rejected v (objection x)) else .ok x

/-- The policy of the three values `maxRetries`, `baseDelay` and `maxDelay`. -/
def make (maxRetries baseDelay maxDelay : Value) : Except Failure RetryPolicy := do
  let retries ← retriesOf maxRetries
  let base ← delayOf .baseDelayNegative baseDelay
  let greatest ← delayOf .maxDelayNegative maxDelay
  .ok ⟨retries, base, greatest⟩

/-- The greatest number of doublings; one more would leave the range whatever the base. -/
def maxDoublings : Nat := 1023

/-- The delay `base`, doubled a number of times, at most `maxDoublings`. -/
def doubled (base : Number) (doublings : Nat) : Except Failure Number :=
  match base.toDouble? with
  | none => .error .overflow
  | some x => .ok (.double (x.scale doublings))

/-- The pause of `p` before a `retry`, counted from one. -/
def delay (p : RetryPolicy) (retry : Nat) : Except Failure Number :=
  (doubled p.baseDelay (min (retry - 1) maxDoublings)).map fun d => d.least p.maxDelay

/-- The delay `base` times two to the power of `exponent`. -/
def scaledBy (base : Number) (exponent : Double) : Except Failure Number :=
  match base.toDouble? with
  | none => .error .overflow
  | some x => .ok (.double (x.mul exponent.twoPow))

/-- The pause of `p` before a `retry` that need not be a whole number. -/
def delayAt (p : RetryPolicy) (retry : Value) : Except Failure Number :=
  match retry.number? with
  | none => .error (.misuse (.unordered "<" retry.qualifiedTypeName "int"))
  | some n =>
    if n.lt (.int 1) then .error (.unusable retry (.attemptNumber retry))
    else
      match n with
      | .bool _ => p.delay 1
      | .int n => p.delay n.toNat
      | .double x =>
        let less := x.add (Double.ofRatio true 1 1)
        let exponent :=
          if (Number.int maxDoublings).lt (.double less) then Double.ofRatio false maxDoublings 1
          else less
        (scaledBy p.baseDelay exponent).map fun d => d.least p.maxDelay

end RetryPolicy

end ObjectStore
