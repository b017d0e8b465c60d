import Mathlib
import ObjectStore.Connection.Http

/-! # Journals

A state in which operations can be run against arbitrary streams: every call and every pause is
written down in order, the operation has its outcomes and the clock its readings from a stream, one
for each time it is used, and what is logged is left out.

* `Journal.effects`, `Journal.scripted`, `Journal.session`: what a run meets.
* `Journal.trace`: calls and pauses in turn, beginning and ending with a call. -/

namespace ObjectStore

/-- What a run does that is seen outside: a call of its operation, known by a mark, or a pause. -/
inductive Step (κ : Type)
  | call (mark : κ)
  | pause (seconds : Number)
deriving DecidableEq, Repr

namespace Step

variable {κ : Type}

/-- The mark of a call. -/
def mark? : Step κ → Option κ
  | call mark => some mark
  | pause _ => none

/-- The length of a pause. -/
def seconds? : Step κ → Option Number
  | call _ => none
  | pause seconds => some seconds

/-- `(call mark).mark? = some mark`. -/
@[simp] theorem mark?_call (mark : κ) : (call mark).mark? = some mark := rfl

/-- `(pause seconds).mark? = none`. -/
@[simp] theorem mark?_pause (seconds : Number) : (pause seconds : Step κ).mark? = none := rfl

/-- `(call mark).seconds? = none`. -/
@[simp] theorem seconds?_call (mark : κ) : (call mark).seconds? = none := rfl

/-- `(pause seconds).seconds? = some seconds`. -/
@[simp] theorem seconds?_pause (seconds : Number) :
    (pause seconds : Step κ).seconds? = some seconds := rfl

end Step

/-- What has happened so far. -/
structure Journal (κ : Type) where
  steps : List (Step κ)
  /-- How often the clock was read. -/
  readings : Nat
deriving DecidableEq, Repr

namespace Journal

variable {κ α : Type}

/-- The journal before anything happened. -/
def start : Journal κ := ⟨[], 0⟩

/-- The marks of the calls, in order. -/
def calls (j : Journal κ) : List κ := j.steps.filterMap Step.mark?

/-- The pauses, in order. -/
def pauses (j : Journal κ) : List Number := j.steps.filterMap Step.seconds?

/-- The journal with one more `step`. -/
def add (j : Journal κ) (step : Step κ) : Journal κ := { j with steps := j.steps ++ [step] }

/-- Pauses are written down, the readings come from `clock`. -/
def effects (clock : Nat → Number) : Effects (Journal κ) where
  log _ j := j
  sleep seconds j := j.add (.pause seconds)
  clock j := (clock j.readings, { j with readings := j.readings + 1 })
  setLevel _ j := j

/-- An operation that has its `outcomes` from a stream, one for each call. -/
def scripted (mark : κ) (outcomes : Nat → Except Failure α) : Action (Journal κ) α := fun j =>
  (outcomes j.calls.length, j.add (.call mark))

/-- A session that has its `replies` from a stream, one for each request. -/
def session (replies : Nat → Except SessionFault Response) : Session (Journal Request) where
  request r j := (replies j.calls.length, j.add (.call r))
  close j := j

/-- `(effects clock).log record j = j`: log records are not kept. -/
@[simp] theorem log_effects (clock : Nat → Number) (record : LogRecord) (j : Journal κ) :
    (effects clock).log record j = j := rfl

/-- `(effects clock).sleep seconds j = j.add (.pause seconds)`: A pause is written down as a
step. -/
@[simp] theorem sleep_effects (clock : Nat → Number) (seconds : Number) (j : Journal κ) :
    (effects clock).sleep seconds j = j.add (.pause seconds) := rfl

/-- `(effects clock).clock j`: A reading of the clock is counted. -/
@[simp] theorem clock_effects (clock : Nat → Number) (j : Journal κ) :
    (effects clock).clock j = (clock j.readings, ⟨j.steps, j.readings + 1⟩) := rfl

/-! ## Traces -/

/-- A call, by its `mark`, and for each of some retries its `pause` and a further call. -/
def trace (mark : κ) (pause : Nat → Number) : Nat → List (Step κ)
  | 0 => [.call mark]
  | retries + 1 => trace mark pause retries ++ [.pause (pause (retries + 1)), .call mark]

/-- The steps before the call that follows some retries' pauses. -/
def lead (mark : κ) (pause : Nat → Number) : Nat → List (Step κ)
  | 0 => []
  | retries + 1 => trace mark pause retries ++ [.pause (pause (retries + 1))]

/-- `lead mark pause retries ++ [.call mark] = trace mark pause retries`. -/
theorem lead_append_call (mark : κ) (pause : Nat → Number) (retries : Nat) :
    lead mark pause retries ++ [.call mark] = trace mark pause retries := by
  cases retries <;> simp [lead, trace]

/-- `calls = List.replicate (retries + 1) mark`: A trace with some retries has one call more. -/
theorem calls_trace (mark : κ) (pause : Nat → Number) (retries readings : Nat) :
    (⟨trace mark pause retries, readings⟩ : Journal κ).calls =
      List.replicate (retries + 1) mark := by
  induction retries with
  | zero => rfl
  | succ retries ih =>
    rw [calls] at ih ⊢
    rw [trace, List.filterMap_append, ih, List.replicate_succ' (n := retries + 1)]
    rfl

/-- Before the call that follows `retries` pauses there are as many calls. -/
theorem calls_lead (mark : κ) (pause : Nat → Number) (retries readings : Nat) :
    (⟨lead mark pause retries, readings⟩ : Journal κ).calls = List.replicate retries mark := by
  cases retries with
  | zero => rfl
  | succ retries =>
    have h := calls_trace mark pause retries readings
    rw [calls] at h ⊢
    rw [lead, List.filterMap_append, h]
    simp

/-- `pauses = (List.range retries).map fun i => pause (i + 1)`: the pauses of a trace are those
before its retries. -/
theorem pauses_trace (mark : κ) (pause : Nat → Number) (retries readings : Nat) :
    (⟨trace mark pause retries, readings⟩ : Journal κ).pauses =
      (List.range retries).map fun i => pause (i + 1) := by
  induction retries with
  | zero => rfl
  | succ retries ih =>
    rw [pauses] at ih ⊢
    rw [trace, List.filterMap_append, ih, List.range_succ, List.map_append]
    rfl

/-- `scripted mark outcomes`, called when some retries' pauses have been made, has the outcome
`outcomes retries`. -/
theorem scripted_lead (mark : κ) (outcomes : Nat → Except Failure α) (pause : Nat → Number)
    (retries readings : Nat) :
    scripted mark outcomes ⟨lead mark pause retries, readings⟩ =
      (outcomes retries, ⟨trace mark pause retries, readings⟩) := by
  rw [scripted, calls_lead, List.length_replicate, add, lead_append_call]

end Journal

end ObjectStore
