import Mathlib
import ObjectStore.Retry.Classify

/-! # Transient failures

Which failures are worth another attempt. `Failure.isRetriable` asks for the kind of a failure;
`Failure.isTransient` says it on the failure itself: the store was not reached, it did not answer in
time, or a gateway reports by one of three status codes that it got no answer. Where status codes
are whole numbers every kind is known and the two agree. -/

namespace ObjectStore

/-! ## Equality of whole numbers -/

/-- `(Number.int m).eq (.int n) = decide (m = n)`: whole numbers are equal as quantities exactly if
they are the same. -/
theorem Number.eq_int (m n : Int) : (Number.int m).eq (.int n) = decide (m = n) := by
  have hone : (Double.one : Int) ≠ 0 := by
    have := Double.one_pos
    omega
  have hcancel : m * Double.one = n * Double.one ↔ m = n := mul_left_inj' hone
  show (m * (Double.one : Int) == n * Double.one) = _
  rw [Bool.eq_iff_iff, beq_iff_eq, hcancel, decide_eq_true_iff]

/-- `(Value.int m).same (.int n) = decide (m = n)`. -/
theorem Value.same_int (m n : Int) : (Value.int m).same (.int n) = decide (m = n) := by
  rw [Value.same]
  exact Number.eq_int m n

/-- `(Value.int m).same (.bool b) = decide (m = Number.ofBool b)`: A truth value is equal to the
whole number that it counts as, and to no other. -/
theorem Value.same_int_bool (m : Int) (b : Bool) :
    (Value.int m).same (.bool b) = decide (m = Number.ofBool b) := by
  rw [Value.same]
  exact Number.eq_int m (Number.ofBool b)

/-! ## Transient failures and their kinds -/

namespace Failure

/-- The status code that a failure reports. -/
def statusCode? : Failure → Option Value
  | library topic _ _ _ => topic.statusCode?
  | _ => none

/-- That the status code of `e`, if it reports one, is a whole number or a truth value. -/
def HasWholeStatus (e : Failure) : Prop :=
  ∀ code, e.statusCode? = some code → (∃ n, code = .int n) ∨ ∃ b, code = .bool b

/-- Whether a failure is worth another attempt. -/
def isTransient : Failure → Bool
  | library (.connection _) _ _ _ => true
  | library (.timeout _) _ _ _ => true
  | library (.status (.int n) _) _ _ _ => n == 502 || n == 503 || n == 504
  | _ => false

/-- `isGatewayStatus code`: a code that can be looked up is a gateway's if it is equal to one of the
three. -/
theorem isGatewayStatus_of_hashable {code : Value} (hs : ∀ xs, code ≠ .set xs)
    (h : code.hashable = true) :
    isGatewayStatus code =
      .ok ((Value.int 502).same code || (Value.int 503).same code ||
        (Value.int 504).same code) := by
  rw [isGatewayStatus]
  · rw [if_pos h]
    simp [retriableStatuses, Bool.or_assoc]
  · exact fun xs => hs xs

/-- `isGatewayStatus (.int n)`: the gateway statuses are 502, 503 and 504. -/
theorem isGatewayStatus_int (n : Int) :
    isGatewayStatus (.int n) = .ok (n == 502 || n == 503 || n == 504) := by
  rw [isGatewayStatus_of_hashable (by simp) rfl]
  simp only [Value.same_int, eq_comm (b := n)]
  rfl

/-- `isGatewayStatus (.bool b) = .ok false`: no truth value is a gateway's status code. -/
theorem isGatewayStatus_bool (b : Bool) : isGatewayStatus (.bool b) = .ok false := by
  rw [isGatewayStatus_of_hashable (by simp) rfl]
  simp only [Value.same_int_bool]
  cases b <;> rfl

/-- The kind of a failure that reports a status code. -/
theorem kind_of_statusCode {topic : Topic Failure} {m : Value} {context : Entries}
    {cause : Option Failure} {code : Value} {b : Bool} (hcode : topic.statusCode? = some code)
    (hb : isGatewayStatus code = .ok b) :
    (library topic m context cause).kind = .ok (if b then .gatewayStatus else .otherStatus) := by
  have hmap : (library topic m context cause).kind =
      (isGatewayStatus code).map fun b => if b then .gatewayStatus else .otherStatus := by
    cases topic <;> cases hcode <;> rfl
  rw [hmap, hb]
  rfl

/-- `isGatewayStatus code = .error f`: A status that cannot be looked up is a misuse. -/
theorem isGatewayStatus_eq_error {code : Value} {f : Failure}
    (h : isGatewayStatus code = .error f) :
    ∃ m, f = .misuse m := by
  unfold isGatewayStatus at h
  split at h
  · cases h
  · split at h
    · cases h
    · cases h
      exact ⟨_, rfl⟩

/-- `e.kind = .error f`: what stands in the way of telling a failure's kind is a wrong use, of a
status code that cannot be looked up. -/
theorem kind_eq_error {e f : Failure} (h : e.kind = .error f) : ∃ m, f = .misuse m := by
  unfold kind at h
  split at h
  · split at h
    · cases h
    · cases h
    · split at h
      · -- a status code, which has to be looked up
        rename_i code _
        cases hcode : isGatewayStatus code with
        | ok b =>
          rw [hcode] at h
          cases h
        | error g =>
          rw [hcode] at h
          cases h
          exact isGatewayStatus_eq_error hcode
      · cases h
  · cases h

/-- `kind.retriable = e.isTransient`: the kind of a failure whose status code is a whole number is
known, and it is a retriable one exactly for the transient failures. -/
theorem kind_of_hasWholeStatus {e : Failure} (h : e.HasWholeStatus) :
    ∃ kind, e.kind = .ok kind ∧ kind.retriable = e.isTransient := by
  cases e with
  | library topic m context cause =>
    cases topic with
    | connection url => exact ⟨_, rfl, rfl⟩
    | timeout limit => exact ⟨_, rfl, rfl⟩
    | status code body =>
      -- the one topic whose code is not fixed, and where the hypothesis is needed
      rcases h code rfl with ⟨n, rfl⟩ | ⟨b, rfl⟩
      · refine ⟨_, kind_of_statusCode rfl (isGatewayStatus_int n), ?_⟩
        simp only [isTransient]
        cases n == 502 || n == 503 || n == 504 <;> rfl
      · exact ⟨_, kind_of_statusCode rfl (isGatewayStatus_bool b), rfl⟩
    | notFound body => exact ⟨_, kind_of_statusCode rfl (isGatewayStatus_int 404), rfl⟩
    | forbidden body => exact ⟨_, kind_of_statusCode rfl (isGatewayStatus_int 403), rfl⟩
    | _ => exact ⟨_, rfl, rfl⟩
  | _ => exact ⟨_, rfl, rfl⟩

/-- Whether the kind of `e` is known and a retriable one. -/
def isRetriable (e : Failure) : Bool :=
  match e.kind with
  | .ok kind => kind.retriable
  | .error _ => false

/-- `e.isRetriable = e.isTransient` for failures that report a whole status or none. -/
theorem isRetriable_eq_isTransient {e : Failure} (h : e.HasWholeStatus) :
    e.isRetriable = e.isTransient := by
  obtain ⟨kind, hkind, hr⟩ := kind_of_hasWholeStatus h
  rw [isRetriable, hkind]
  exact hr

end Failure

/-! ## Outcomes -/

section Outcome

variable {α : Type}

/-- Whether an outcome of an operation is a failure of a retriable kind. -/
def isRetriableOutcome : Except Failure α → Bool
  | .ok _ => false
  | .error e => e.isRetriable

/-- Whether an outcome of an operation is a transient failure. -/
def isTransientOutcome : Except Failure α → Bool
  | .ok _ => false
  | .error e => e.isTransient

/-- `isRetriableOutcome r = isTransientOutcome r`, for the outcome of an operation. -/
theorem isRetriableOutcome_eq_isTransientOutcome {r : Except Failure α}
    (h : ∀ e, r = .error e → e.HasWholeStatus) : isRetriableOutcome r = isTransientOutcome r := by
  cases r with
  | ok x => rfl
  | error e => exact Failure.isRetriable_eq_isTransient (h e rfl)

/-- `isRetriableOutcome r = true`: A retriable outcome is a failure of a retriable kind. -/
theorem exists_kind_of_isRetriableOutcome {r : Except Failure α}
    (h : isRetriableOutcome r = true) :
    ∃ e kind, r = .error e ∧ e.kind = .ok kind ∧ kind.retriable = true := by
  cases r with
  | ok x => cases h
  | error e =>
    rw [isRetriableOutcome, Failure.isRetriable] at h
    cases hkind : e.kind with
    | ok kind =>
      rw [hkind] at h
      exact ⟨e, kind, rfl, hkind, h⟩
    | error f =>
      rw [hkind] at h
      cases h

/-- `isRetriableOutcome r = true`: A failure of a retriable kind is a retriable outcome. -/
theorem isRetriableOutcome_of_kind {r : Except Failure α} {e : Failure} {kind : ErrorKind}
    (he : r = .error e) (hkind : e.kind = .ok kind) (hr : kind.retriable = true) :
    isRetriableOutcome r = true := by
  rw [he, isRetriableOutcome, Failure.isRetriable, hkind]
  exact hr

/-- What an outcome that is not retriable is passed on as: itself, unless it is a failure of which
the kind cannot be told. -/
def settledOutcome : Except Failure α → Except Failure α
  | .ok x => .ok x
  | .error e =>
    match e.kind with
    | .ok _ => .error e
    | .error f => .error f

/-- `settledOutcome r`: A library error that is passed on is the outcome itself. -/
theorem eq_of_settledOutcome_eq_library {r : Except Failure α} {topic : Topic Failure}
    {message : Value} {context : Entries} {cause : Option Failure}
    (h : settledOutcome r = .error (.library topic message context cause)) :
    r = .error (.library topic message context cause) := by
  cases r with
  | ok x => cases h
  | error e =>
    rw [settledOutcome] at h
    cases hkind : e.kind with
    | ok kind =>
      rw [hkind] at h
      exact h
    | error f =>
      obtain ⟨m, rfl⟩ := Failure.kind_eq_error hkind
      rw [hkind] at h
      cases h

/-- `settledOutcome r = r` if failures report a whole status or none. -/
theorem settledOutcome_eq_self {r : Except Failure α}
    (h : ∀ e, r = .error e → e.HasWholeStatus) : settledOutcome r = r := by
  cases r with
  | ok x => rfl
  | error e =>
    obtain ⟨kind, hkind, -⟩ := Failure.kind_of_hasWholeStatus (h e rfl)
    rw [settledOutcome, hkind]

end Outcome

end ObjectStore
