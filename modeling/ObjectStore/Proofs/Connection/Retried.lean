import Mathlib
import ObjectStore.Proofs.Retry.Ending

/-! # Connections with retries

What a connection with a retry policy makes of a session's replies, next to the same connection
without one. A reply is transient on its own account: a fault of running out of time, of a lost
connection or of a body that was cut off, or one of three gateway statuses. The errors that faults
and statuses become are transient failures for exactly these replies, so the retries pass over the
transient ones and end with the first other one. That a request ran out of time is told with the
time limit, so this is said of connections whose limit can be written, or whose requests are all
answered in time.

* `isTransientReply`: which replies are transient.
* `HttpConnection.CanTell`: whether a connection has an error for a reply.
* `HttpConnection.perform_retrying_refines`: calls with retries, by the first reply that is not
  transient. -/

namespace ObjectStore

/-! ## Transient replies -/

/-- Whether the fault `f` passes with time. -/
def SessionFault.isTransient (f : SessionFault) : Bool :=
  f.isOf timeoutName || f.isOf unreachableName || f.isOf truncatedName

/-- Whether a reply is worth another request. -/
def isTransientReply : Except SessionFault Response → Bool
  | .error fault => fault.isTransient
  | .ok r => r.status == 502 || r.status == 503 || r.status == 504

namespace HttpConnection

variable (c : HttpConnection) (call : Call)

/-- That a fault, if `reply` is one, is told by an error of the library: the time limit can be
written if the request ran out of time. -/
def CanTell (reply : Except SessionFault Response) : Prop :=
  ∀ fault, reply = .error fault → fault.category = .timeout → c.timeout.isWritable = true

/-- `c.CanTell reply` for every reply if the time limit of `c` can be written. -/
theorem canTell_of_isWritable (h : c.timeout.isWritable = true)
    (reply : Except SessionFault Response) : c.CanTell reply := fun _ _ _ => h

/-- What a call comes to on a reply. -/
def outcome : Except SessionFault Response → Except Failure Value
  | .error fault => .error (c.faultError call fault)
  | .ok r => c.answer call r

/-- `c.single` has its outcome from the reply to its request. -/
theorem single_eq_scripted (clock : Nat → Number)
    (replies : Nat → Except SessionFault Response) :
    c.single (Journal.effects clock) (Journal.session replies) call =
      Journal.scripted (c.requestOf call) fun i => c.outcome call (replies i) := by
  funext j
  have hsend : (Journal.session replies).send (c.requestOf call) j =
      (.ok (replies j.calls.length), j.add (.call (c.requestOf call))) := rfl
  rw [single, Action.bind_run_ok (Effects.note_run _ _ _ _ _), Journal.log_effects,
    Action.bind_run_ok hsend, Journal.scripted]
  cases replies j.calls.length <;> rfl

/-! ## Transient outcomes -/

/-- `(c.faultError call fault).isTransient = fault.isTransient` if the fault can be told. -/
theorem isTransient_faultError {fault : SessionFault} (h : c.CanTell (.error fault)) :
    (c.faultError call fault).isTransient = fault.isTransient := by
  have htold := h fault rfl
  rw [SessionFault.category] at htold
  rw [SessionFault.isTransient, faultError, SessionFault.category]
  cases htimeout : fault.isOf SessionFault.timeoutName with
  | true =>
    rw [htimeout] at htold
    simp only [if_true, htold rfl]
    rfl
  | false =>
    cases fault.isOf SessionFault.unreachableName <;>
      cases fault.isOf SessionFault.truncatedName <;> rfl

/-- `c.faultError call fault` reports no status, so none that is not whole. -/
theorem hasWholeStatus_faultError (fault : SessionFault) :
    (c.faultError call fault).HasWholeStatus := by
  have hnone : (c.faultError call fault).statusCode? = none := by
    rw [faultError]
    cases fault.category with
    | timeout => cases c.timeout.isWritable <;> rfl
    | _ => rfl
  intro code hcode
  rw [hnone] at hcode
  cases hcode

/-- `c.statusError call r` is transient for the gateway statuses 502, 503 and 504 only. -/
theorem isTransient_statusError (r : Response) :
    (c.statusError call r).isTransient =
      (r.status == 502 || r.status == 503 || r.status == 504) := by
  unfold statusError
  split
  · next h => simp [h, Failure.forbiddenError, Failure.isTransient]
  · split
    · next h => simp [h, Failure.notFoundError, Failure.isTransient]
    · rfl

/-- `c.statusError call r` reports a whole number. -/
theorem hasWholeStatus_statusError (r : Response) : (c.statusError call r).HasWholeStatus := by
  intro code hcode
  left
  unfold statusError at hcode
  split at hcode
  · cases hcode
    exact ⟨403, rfl⟩
  · split at hcode
    · cases hcode
      exact ⟨404, rfl⟩
    · cases hcode
      exact ⟨r.status, rfl⟩

/-- What `decode` fails with is no transient failure and reports no status. -/
theorem decode_eq_error {body : String} {e : Failure} (h : decode call body = .error e) :
    e.isTransient = false ∧ e.statusCode? = none := by
  unfold decode at h
  split at h
  · cases h
  · split at h
    · cases h
    · cases h
      exact ⟨rfl, rfl⟩
    · cases h
      exact ⟨rfl, rfl⟩

/-- `c.answer call r` is an error status' error, a value, or what `decode` makes of the body. -/
theorem answer_cases (r : Response) :
    (400 ≤ r.status ∧ c.answer call r = .error (c.statusError call r)) ∨
      (∃ x, c.answer call r = .ok x ∧ (r.status < 400 ∨ r.status = 404)) ∨
      (r.status < 400 ∧ c.answer call r = decode call r.body) := by
  unfold answer
  split
  · next h =>
    -- a `head` of what is not there
    simp only [Bool.and_eq_true, decide_eq_true_eq] at h
    exact .inr (.inl ⟨_, rfl, .inr h.2⟩)
  · split
    · next h => exact .inl ⟨h, rfl⟩
    · next h =>
      have hlt : r.status < 400 := by omega
      split
      · exact .inr (.inl ⟨_, rfl, .inl hlt⟩)
      · exact .inr (.inl ⟨_, rfl, .inl hlt⟩)
      · exact .inr (.inr ⟨hlt, rfl⟩)

/-- Whatever `c.outcome` fails with reports a whole status or none. -/
theorem hasWholeStatus_outcome {reply : Except SessionFault Response} {e : Failure}
    (h : c.outcome call reply = .error e) : e.HasWholeStatus := by
  cases reply with
  | error fault =>
    cases h
    exact hasWholeStatus_faultError c call fault
  | ok r =>
    rw [outcome] at h
    -- An error status, an answer that is decoded, or one that cannot be, which has no status.
    rcases c.answer_cases call r with ⟨-, hr⟩ | ⟨x, hr, -⟩ | ⟨-, hr⟩
    · rw [hr] at h
      cases h
      exact hasWholeStatus_statusError c call r
    · rw [hr] at h
      cases h
    · rw [hr] at h
      intro code hcode
      rw [(decode_eq_error call h).2] at hcode
      cases hcode

/-- `c.outcome` is a transient failure exactly on the transient replies. -/
theorem isTransientOutcome_outcome {reply : Except SessionFault Response} (h : c.CanTell reply) :
    isTransientOutcome (c.outcome call reply) = isTransientReply reply := by
  cases reply with
  | error fault => exact isTransient_faultError c call h
  | ok r =>
    -- no gateway status is left to answers that are not errors
    have hother : r.status < 400 ∨ r.status = 404 → isTransientReply (.ok r) = false := by
      intro h
      have h2 : r.status ≠ 502 := by omega
      have h3 : r.status ≠ 503 := by omega
      have h4 : r.status ≠ 504 := by omega
      simp [isTransientReply, h2, h3, h4]
    rw [outcome]
    rcases c.answer_cases call r with ⟨-, hr⟩ | ⟨x, hr, hs⟩ | ⟨hs, hr⟩
    · rw [hr]
      exact isTransient_statusError c call r
    · rw [hr, hother hs]
      rfl
    · rw [hr, hother (.inl hs)]
      cases hd : decode call r.body with
      | ok x => rfl
      | error e => exact (decode_eq_error call hd).1

/-- The executor retries `c.outcome` exactly on the transient replies. -/
theorem isRetriableOutcome_outcome {reply : Except SessionFault Response} (h : c.CanTell reply) :
    isRetriableOutcome (c.outcome call reply) = isTransientReply reply := by
  rw [isRetriableOutcome_eq_isTransientOutcome fun _ h => hasWholeStatus_outcome c call h,
    isTransientOutcome_outcome c call h]

/-! ## Retries over replies -/

/-- The connection `c` without a policy. -/
def direct : HttpConnection := { c with retry := none }

/-- The connection `c` with `policy`. -/
def retrying (policy : RetryPolicy) : HttpConnection := { c with retry := some policy }

/-- `c.direct.perform` returns `c.outcome call reply` if `reply` is the only reply. -/
theorem perform_direct (clock : Nat → Number) (reply : Except SessionFault Response) :
    c.direct.perform (Journal.effects clock) (Journal.session fun _ => reply) call Journal.start =
      (c.outcome call reply, ⟨[.call (c.requestOf call)], 0⟩) := by
  show c.direct.single _ _ call Journal.start = _
  rw [single_eq_scripted]
  cases reply <;> rfl

/-- `(c.retrying policy).perform` is the run of the single calls by `policy`. -/
theorem perform_retrying (policy : RetryPolicy) (clock : Nat → Number)
    (replies : Nat → Except SessionFault Response) :
    (c.retrying policy).perform (Journal.effects clock) (Journal.session replies) call
        Journal.start =
      policy.scriptedRun clock (fun _ => false) (call.method.name ++ " " ++ call.path)
        (c.requestOf call) fun i => c.outcome call (replies i) := by
  show policy.run _ _ _ ((c.retrying policy).single _ _ call) _ = _
  rw [single_eq_scripted]
  cases policy
  rfl

/-- The connection `c.retrying p` refines `c.direct`. Every request that it sends is that of the
call. If one of the replies that its attempts may get is not transient, the first of these decides,
and the call comes to what it comes to without retries on that reply alone; if all are transient,
the retries are exhausted, by what the call comes to without retries on the last. The one thing
asked of the connection is that `c.CanTell` that a request ran out of time, if one did. -/
theorem perform_retrying_refines (retries : Nat) (base greatest : Double) (clock : Nat → Number)
    (replies : Nat → Except SessionFault Response) (htold : ∀ i, c.CanTell (replies i)) :
    (∀ k ≤ retries, (∀ i < k, isTransientReply (replies i) = true) →
        isTransientReply (replies k) = false →
        ∃ j, (c.retrying ⟨retries, .double base, .double greatest⟩).perform (Journal.effects clock)
              (Journal.session replies) call Journal.start =
            ((c.direct.perform (Journal.effects clock) (Journal.session fun _ => replies k) call
              Journal.start).1, j) ∧
          j.calls = List.replicate (k + 1) (c.requestOf call)) ∧
      ((∀ i ≤ retries, isTransientReply (replies i) = true) →
        ∃ e attempts lastMessage message context j,
          (c.direct.perform (Journal.effects clock) (Journal.session fun _ => replies retries) call
            Journal.start).1 = .error e ∧
          (c.retrying ⟨retries, .double base, .double greatest⟩).perform (Journal.effects clock)
              (Journal.session replies) call Journal.start =
            (.error (.library (.exhausted (.text (call.method.name ++ " " ++ call.path))
              (.int (retries + 1 : Nat)) attempts lastMessage (some (.failure e))) message context
              (some e)), j) ∧
          j.calls = List.replicate (retries + 1) (c.requestOf call)) := by
  have hp := RetryPolicy.paces_double retries base greatest
  -- Which replies are transient is read off the outcomes: only here is `htold` used.
  have htransient : ∀ i, isTransientReply (replies i) =
      isRetriableOutcome (c.outcome call (replies i)) := fun i =>
    (isRetriableOutcome_outcome c call (htold i)).symm
  simp only [perform_direct, perform_retrying, htransient]
  refine ⟨?_, ?_⟩
  · -- `replies k` is the first that is not transient: the run is settled by it.
    intro k hk hbefore hend
    have hrun := RetryPolicy.run_settled clock (call.method.name ++ " " ++ call.path)
      (c.requestOf call) hp hk (RetryPolicy.reaches_of_retriable hbefore) hend
    rw [settledOutcome_eq_self fun _ h => hasWholeStatus_outcome c call h] at hrun
    exact ⟨_, hrun, Journal.calls_trace _ _ _ _⟩
  · -- All are transient: the run is exhausted after `retries + 1` attempts.
    intro hall
    obtain ⟨attempts, e, kind, hlen, -, he, -, -, hrun⟩ :=
      RetryPolicy.run_exhausted clock (call.method.name ++ " " ++ call.path) (c.requestOf call) hp
        (RetryPolicy.reaches_of_retriable fun i hi => hall i (Nat.le_of_lt hi))
        (hall retries le_rfl)
    obtain ⟨message, context, hexhausted⟩ := RetryPolicy.exhausted_eq
      (call.method.name ++ " " ++ call.path) hlen
      (RetryPolicy.recordOf (retries + 1) e kind (clock retries) none) e
    rw [hexhausted] at hrun
    exact ⟨e, _, _, message, context, _, he, hrun, Journal.calls_trace _ _ _ _⟩

/-- Replies of a store that is late, then behind an unavailable gateway, then there. -/
def recoveringReplies : Nat → Except SessionFault Response
  | 0 => .error (SessionFault.named "ConnectTimeout" "late")
  | 1 => .ok ⟨503, "unavailable"⟩
  | _ => .ok ⟨200, ""⟩

/-- A `get` with two retries sends three requests and returns the empty mapping. -/
theorem perform_retrying_refines_recovering :
    ∃ j, (retrying ⟨"http://localhost", .int 30, [], none, false⟩
          ⟨2, .double .zero, .double .zero⟩).perform (Journal.effects fun _ => .int 0)
          (Journal.session recoveringReplies) ⟨.get, "/v1/meta", .null⟩ Journal.start =
        (.ok (.dict []), j) ∧ j.calls.length = 3 := by
  have htimeout : (Value.int 30).isWritable = true := by decide +kernel
  obtain ⟨j, hrun, hcalls⟩ :=
    (perform_retrying_refines ⟨"http://localhost", .int 30, [], none, false⟩
      ⟨.get, "/v1/meta", .null⟩ 2 .zero .zero (fun _ => .int 0) recoveringReplies
      fun i => canTell_of_isWritable _ htimeout (recoveringReplies i)).1 2 le_rfl
      (by decide) (by decide)
  rw [perform_direct] at hrun
  refine ⟨j, hrun, ?_⟩
  rw [hcalls, List.length_replicate]

end HttpConnection

end ObjectStore
