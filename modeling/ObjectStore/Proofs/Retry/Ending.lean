import Mathlib
import ObjectStore.Proofs.Retry.Journal
import ObjectStore.Proofs.Retry.Pause
import ObjectStore.Proofs.Retry.Transient

/-! # How runs end

A run over a stream of outcomes ends in one of three ways: with the first outcome that is no
transient failure, with the error of a run whose every attempt failed, or with that of a cancelled
run. `Ending` says for each what is returned, what has been done and which records have been kept;
`run_ending` says that every run ends so.

* `round_ok`, `round_error`, `round_unknown`: one attempt, by its outcome.
* `Ledger`: the invariant of the records kept so far.
* `exists_ledger_run`: a run whose first attempts fail transiently goes on behind them. -/

namespace ObjectStore.RetryPolicy

/-! ## One attempt -/

section Round

variable {σ α : Type} {fx : Effects σ} {description : String} {operation : Action σ α}
  {attempts : List Attempt} {onTransient : Failure → ErrorKind → Action σ α} {s t : σ}

/-- `operation s = (.ok x, t)`: A round whose operation returns succeeds. -/
theorem round_ok {x : α} (h : operation s = (.ok x, t)) :
    round fx description operation attempts onTransient s =
      succeed fx description attempts x t := by
  rw [round, Action.bind_run_ok (Action.attempt_run _ _), h]

/-- `operation s = (.error e, t)`: A round whose operation fails goes on as the kind of the failure
says. -/
theorem round_error {e : Failure} {kind : ErrorKind} (h : operation s = (.error e, t))
    (hkind : e.kind = .ok kind) :
    round fx description operation attempts onTransient s =
      if kind.retriable then onTransient e kind t else passOn fx description e t := by
  rw [round, Action.bind_run_ok (Action.attempt_run _ _), h]
  simp only [Action.bind_run, Action.done_run, hkind]
  split <;> rfl

/-- `e.kind = .error f`: A failure of which the kind cannot be told ends the run with what stood in
the way. -/
theorem round_unknown {e f : Failure} (h : operation s = (.error e, t))
    (hkind : e.kind = .error f) :
    round fx description operation attempts onTransient s = (.error f, t) := by
  rw [round, Action.bind_run_ok (Action.attempt_run _ _), h]
  simp only [Action.bind_run, Action.done_run, hkind]

end Round

/-! ## One attempt in a journal -/

/-- That the pauses of `p` are given by `pause`, and can be written into the log. -/
def Paces (p : RetryPolicy) (pause : Nat → Number) : Prop :=
  ∀ retry, p.delay retry = .ok (pause retry) ∧ ∃ text, (pause retry).fixed 2 = .ok text

/-- Policies with doubles for delays pause by `pauseBefore base greatest`. -/
theorem paces_double (retries : Nat) (base greatest : Double) :
    Paces ⟨retries, .double base, .double greatest⟩ (pauseBefore base greatest) := fun retry =>
  ⟨delay_double retries base greatest retry, exists_fixed_pauseBefore base greatest 2 retry⟩

/-- The record of a failed attempt, the one of `number`. -/
def recordOf (number : Nat) (e : Failure) (kind : ErrorKind) (timestamp : Number)
    (delay : Option Number) : Attempt :=
  ⟨number, e.message, e.className, kind, timestamp, delay⟩

section Journal

variable {κ α : Type} {p : RetryPolicy} {clock : Nat → Number} {cancelled : Journal κ → Bool}
  {description : String} {attempts : List Attempt} {pause : Nat → Number}

/-- `succeed` returns the value and adds nothing to the journal. -/
theorem succeed_journal (x : α) (j : Journal κ) :
    succeed (Journal.effects clock) description attempts x j = (.ok x, j) := by
  unfold succeed
  by_cases h : attempts.isEmpty = true <;> simp [h, Action.bind_run]

/-- `passOn` fails as the operation did and adds nothing to the journal. -/
theorem passOn_journal (e : Failure) (j : Journal κ) :
    (passOn (Journal.effects clock) description e : Action (Journal κ) α) j = (.error e, j) := by
  simp [passOn, Action.bind_run]

/-- `p.giveUp` reads the clock once more and fails with all its records. -/
theorem giveUp_journal (e : Failure) (kind : ErrorKind) (j : Journal κ) :
    (p.giveUp (Journal.effects clock) description attempts e kind : Action (Journal κ) α) j =
      (.error (exhausted description
          (attempts ++ [recordOf (attempts.length + 1) e kind (clock j.readings) none]) e),
        ⟨j.steps, j.readings + 1⟩) := by
  simp [giveUp, recordAttempt, recordOf, Action.bind_run]

/-- `stop` fails with the records so far and adds nothing to the journal. -/
theorem stop_journal (e : Failure) (j : Journal κ) :
    (stop (Journal.effects clock) description attempts e : Action (Journal κ) α) j =
      (.error (cancelledBy description attempts e), j) := by
  simp [stop, Action.bind_run]

/-- `p.tryAgain` reads the clock and records the failure; then the run is cancelled, or pauses
before the next attempt. -/
theorem tryAgain_journal (hp : p.Paces pause) (rest : List Attempt → Action (Journal κ) α)
    (e : Failure) (kind : ErrorKind) (j : Journal κ) :
    p.tryAgain (Journal.effects clock) cancelled description attempts rest e kind j =
      let pause := pause (attempts.length + 1)
      let attempts :=
        attempts ++ [recordOf (attempts.length + 1) e kind (clock j.readings) (some pause)]
      let j : Journal κ := ⟨j.steps, j.readings + 1⟩
      if cancelled j then (.error (cancelledBy description attempts e), j)
      else rest attempts (j.add (.pause pause)) := by
  obtain ⟨hd, text, ht⟩ := hp (attempts.length + 1)
  have hrecord : ∀ t, p.recordAttempt (attempts.length + 1) e kind t false =
      .ok (recordOf (attempts.length + 1) e kind t (some (pause (attempts.length + 1)))) := by
    intro t
    simp [recordAttempt, hd, recordOf, Except.map]
  simp only [tryAgain, Action.bind_run, Effects.readClock_run, Action.done_run, hrecord, hd, ht,
    Effects.note_run, Action.get_run, Journal.clock_effects, Journal.log_effects]
  split
  · exact stop_journal e _
  · rw [Action.bind_run, Effects.pause_run, Journal.sleep_effects]

end Journal

/-! ## The records kept so far -/

/-- The records of a number of failed attempts, each of which was followed by another one or by a
cancellation: numbered from one, each with the text, the class and the kind of its failure, the
clock's reading after it and the pause planned after it. -/
structure Ledger {α : Type} (clock pause : Nat → Number) (outcomes : Nat → Except Failure α)
    (attempts : List Attempt) : Prop where
  records : ∀ i (h : i < attempts.length), ∃ e kind, outcomes i = .error e ∧ e.kind = .ok kind ∧
    kind.retriable = true ∧ attempts[i] = recordOf (i + 1) e kind (clock i) (some (pause (i + 1)))

section Run

variable {κ α : Type} {p : RetryPolicy} {clock pause : Nat → Number}
  {cancelled : Journal κ → Bool} {description : String} {mark : κ}
  {outcomes : Nat → Except Failure α}

/-- `Ledger clock pause outcomes []`: nothing is recorded before the first failure. -/
theorem Ledger.nil : Ledger clock pause outcomes [] := ⟨fun _ h => absurd h (Nat.not_lt_zero _)⟩

/-- `Ledger`: it goes on with the record of the next attempt. -/
theorem Ledger.append {attempts : List Attempt} (hl : Ledger clock pause outcomes attempts)
    {e : Failure} {kind : ErrorKind} (he : outcomes attempts.length = .error e)
    (hkind : e.kind = .ok kind) (hr : kind.retriable = true) :
    Ledger clock pause outcomes
      (attempts ++ [recordOf (attempts.length + 1) e kind (clock attempts.length)
        (some (pause (attempts.length + 1)))]) := by
  refine ⟨fun i h => ?_⟩
  rw [List.length_append, List.length_singleton] at h
  by_cases hi : i < attempts.length
  · rw [List.getElem_append_left hi]
    exact hl.records i hi
  · obtain rfl : i = attempts.length := by omega
    rw [List.getElem_concat_length rfl]
    exact ⟨e, kind, he, hkind, hr, rfl⟩

/-! ## Whole runs -/

variable (p clock cancelled description mark outcomes) in
/-- The run of a scripted operation in an empty journal. -/
def scriptedRun : Except Failure α × Journal κ :=
  p.run (Journal.effects clock) cancelled description (Journal.scripted mark outcomes) Journal.start

/-- That the run does not end before `retry`: every attempt before it fails transiently, and at no
check before it the run is cancelled. -/
structure Reaches (cancelled : Journal κ → Bool) (mark : κ) (pause : Nat → Number)
    (outcomes : Nat → Except Failure α) (retry : Nat) : Prop where
  transient : ∀ i < retry, isRetriableOutcome (outcomes i) = true
  notCancelled : ∀ i < retry, cancelled ⟨Journal.trace mark pause i, i + 1⟩ = false

/-- `Reaches (fun _ => false) mark pause outcomes retry`: without cancellation a run reaches every
retry before which all attempts failed in a retriable way. -/
theorem reaches_of_retriable {retry : Nat}
    (h : ∀ i < retry, isRetriableOutcome (outcomes i) = true) :
    Reaches (fun _ => false) mark pause outcomes retry :=
  ⟨h, fun _ _ => rfl⟩

section

variable (clock description mark)

/-- `Reaches`: a run that reaches a retry goes on there, with a ledger of the attempts before it. -/
theorem exists_ledger_run (hp : p.Paces pause) {retry : Nat}
    (hle : retry ≤ p.maxRetries) (hreach : Reaches cancelled mark pause outcomes retry) :
    ∃ attempts, attempts.length = retry ∧ Ledger clock pause outcomes attempts ∧
      p.scriptedRun clock cancelled description mark outcomes =
        p.runFrom (Journal.effects clock) cancelled description (Journal.scripted mark outcomes)
          (p.maxRetries - retry) attempts ⟨Journal.lead mark pause retry, retry⟩ := by
  -- A run that goes on is the run with a retry fewer and a record more: the induction is on the
  -- retries behind it, and the ledger is what it carries.
  induction retry with
  | zero => exact ⟨[], rfl, Ledger.nil, rfl⟩
  | succ retry ih =>
    obtain ⟨attempts, hlen, hl, hrun⟩ := ih (by omega)
      ⟨fun i hi => hreach.transient i (by omega), fun i hi => hreach.notCancelled i (by omega)⟩
    obtain ⟨e, kind, he, hkind, hr⟩ :=
      exists_kind_of_isRetriableOutcome (hreach.transient retry (by omega))
    subst hlen
    refine ⟨_, by simp, hl.append he hkind hr, ?_⟩
    have hleft : p.maxRetries - attempts.length = p.maxRetries - (attempts.length + 1) + 1 := by
      omega
    have hcall : Journal.scripted mark outcomes
        ⟨Journal.lead mark pause attempts.length, attempts.length⟩ =
          (.error e, ⟨Journal.trace mark pause attempts.length, attempts.length⟩) := by
      rw [Journal.scripted_lead, he]
    rw [hrun, hleft, runFrom, round_error hcall hkind, if_pos hr, tryAgain_journal hp,
      if_neg (by simp [hreach.notCancelled attempts.length (by omega)])]
    rfl

/-- `isRetriableOutcome (outcomes retry) = false`: the first outcome that is not retriable ends the
run. -/
theorem run_settled (hp : p.Paces pause) {retry : Nat} (hle : retry ≤ p.maxRetries)
    (hreach : Reaches cancelled mark pause outcomes retry)
    (hend : isRetriableOutcome (outcomes retry) = false) :
    p.scriptedRun clock cancelled description mark outcomes =
      (settledOutcome (outcomes retry), ⟨Journal.trace mark pause retry, retry⟩) := by
  obtain ⟨attempts, hlen, -, hrun⟩ :=
    exists_ledger_run clock description mark hp hle hreach
  have hcall := Journal.scripted_lead mark outcomes pause retry retry
  -- An attempt that settles the run does so whatever a transient failure would have led to, so it
  -- does not matter whether a retry is left.
  have hround : ∀ next : Failure → ErrorKind → Action (Journal κ) α,
      round (Journal.effects clock) description (Journal.scripted mark outcomes) attempts next
          ⟨Journal.lead mark pause retry, retry⟩ =
        (settledOutcome (outcomes retry), ⟨Journal.trace mark pause retry, retry⟩) := by
    intro next
    cases he : outcomes retry with
    | ok x =>
      rw [he] at hcall
      rw [round_ok hcall, succeed_journal]
      rfl
    | error e =>
      rw [he] at hcall hend
      rw [isRetriableOutcome, Failure.isRetriable] at hend
      rw [settledOutcome]
      cases hkind : e.kind with
      | ok kind =>
        rw [hkind] at hend
        rw [round_error hcall hkind, if_neg (by simp [hend]), passOn_journal]
      | error f => rw [round_unknown hcall hkind]
  rw [hrun]
  cases p.maxRetries - retry <;> exact hround _

/-- `isRetriableOutcome (outcomes p.maxRetries) = true`: if the last attempt fails transiently too,
the run is exhausted. -/
theorem run_exhausted (hp : p.Paces pause)
    (hreach : Reaches cancelled mark pause outcomes p.maxRetries)
    (hend : isRetriableOutcome (outcomes p.maxRetries) = true) :
    ∃ attempts e kind, attempts.length = p.maxRetries ∧ Ledger clock pause outcomes attempts ∧
      outcomes p.maxRetries = .error e ∧ e.kind = .ok kind ∧ kind.retriable = true ∧
      p.scriptedRun clock cancelled description mark outcomes =
        (.error (exhausted description
            (attempts ++ [recordOf (p.maxRetries + 1) e kind (clock p.maxRetries) none]) e),
          ⟨Journal.trace mark pause p.maxRetries, p.maxRetries + 1⟩) := by
  obtain ⟨attempts, hlen, hl, hrun⟩ :=
    exists_ledger_run clock description mark hp le_rfl hreach
  obtain ⟨e, kind, he, hkind, hr⟩ := exists_kind_of_isRetriableOutcome hend
  refine ⟨attempts, e, kind, hlen, hl, he, hkind, hr, ?_⟩
  have hcall := Journal.scripted_lead mark outcomes pause p.maxRetries p.maxRetries
  rw [he] at hcall
  rw [hrun, Nat.sub_self, runFrom, round_error hcall hkind, if_pos hr, giveUp_journal, hlen]

/-- `isRetriableOutcome (outcomes retry) = true`: A transient failure that finds the run cancelled
ends it, if a retry is left. -/
theorem run_cancelled (hp : p.Paces pause) {retry : Nat}
    (hlt : retry < p.maxRetries) (hreach : Reaches cancelled mark pause outcomes retry)
    (hend : isRetriableOutcome (outcomes retry) = true)
    (hstop : cancelled ⟨Journal.trace mark pause retry, retry + 1⟩ = true) :
    ∃ attempts e, attempts.length = retry + 1 ∧ Ledger clock pause outcomes attempts ∧
      outcomes retry = .error e ∧
      p.scriptedRun clock cancelled description mark outcomes =
        (.error (cancelledBy description attempts e),
          ⟨Journal.trace mark pause retry, retry + 1⟩) := by
  obtain ⟨attempts, hlen, hl, hrun⟩ :=
    exists_ledger_run clock description mark hp hlt.le hreach
  obtain ⟨e, kind, he, hkind, hr⟩ := exists_kind_of_isRetriableOutcome hend
  subst hlen
  refine ⟨_, e, by simp, hl.append he hkind hr, he, ?_⟩
  have hleft : p.maxRetries - attempts.length = p.maxRetries - (attempts.length + 1) + 1 := by
    omega
  have hcall := Journal.scripted_lead mark outcomes pause attempts.length attempts.length
  rw [he] at hcall
  rw [hrun, hleft, runFrom, round_error hcall hkind, if_pos hr, tryAgain_journal hp]
  exact if_pos hstop

/-- `exhausted description (attempts ++ [record]) e`: the error of an exhausted run carries the
number of attempts, which is one more than that of the retries, the text of the last failure, that
failure itself, and has it behind it. -/
theorem exhausted_eq (description : String) {attempts : List Attempt} {retry : Nat}
    (hlen : attempts.length = retry) (record : Attempt) (e : Failure) :
    ∃ message context,
      exhausted description (attempts ++ [record]) e =
        .library (.exhausted (.text description) (.int (retry + 1 : Nat))
          ((attempts ++ [record]).map Attempt.details) (.text e.message) (some (.failure e)))
          message context (some e) := by
  have hcount : (attempts ++ [record]).length = retry + 1 := by
    rw [List.length_append, List.length_singleton, hlen]
  rw [← hcount]
  exact ⟨_, _, rfl⟩

end

/-- The three ways in which a run ends, with what has been done by then. -/
inductive Ending (p : RetryPolicy) (clock pause : Nat → Number) (cancelled : Journal κ → Bool)
    (description : String) (mark : κ) (outcomes : Nat → Except Failure α) :
    Except Failure α × Journal κ → Prop
  | settled (retry : Nat) (hle : retry ≤ p.maxRetries)
      (hreach : Reaches cancelled mark pause outcomes retry)
      (hend : isRetriableOutcome (outcomes retry) = false) :
      Ending p clock pause cancelled description mark outcomes
        (settledOutcome (outcomes retry), ⟨Journal.trace mark pause retry, retry⟩)
  | exhausted (attempts : List Attempt) (e : Failure) (kind : ErrorKind)
      (hreach : Reaches cancelled mark pause outcomes p.maxRetries)
      (hlen : attempts.length = p.maxRetries) (hledger : Ledger clock pause outcomes attempts)
      (he : outcomes p.maxRetries = .error e) (hkind : e.kind = .ok kind)
      (hr : kind.retriable = true) :
      Ending p clock pause cancelled description mark outcomes
        (.error (RetryPolicy.exhausted description
            (attempts ++ [recordOf (p.maxRetries + 1) e kind (clock p.maxRetries) none]) e),
          ⟨Journal.trace mark pause p.maxRetries, p.maxRetries + 1⟩)
  | cancelled (retry : Nat) (attempts : List Attempt) (e : Failure) (hlt : retry < p.maxRetries)
      (hreach : Reaches cancelled mark pause outcomes retry)
      (hstop : cancelled ⟨Journal.trace mark pause retry, retry + 1⟩ = true)
      (hlen : attempts.length = retry + 1) (hledger : Ledger clock pause outcomes attempts)
      (he : outcomes retry = .error e) :
      Ending p clock pause cancelled description mark outcomes
        (.error (cancelledBy description attempts e),
          ⟨Journal.trace mark pause retry, retry + 1⟩)

/-- `Reaches cancelled mark pause outcomes 0`: every run reaches its first attempt. -/
theorem Reaches.zero : Reaches cancelled mark pause outcomes 0 :=
  ⟨fun _ h => absurd h (Nat.not_lt_zero _), fun _ h => absurd h (Nat.not_lt_zero _)⟩

/-- `Reaches cancelled mark pause outcomes (retry + 1)`: A run reaches the next retry after a
transient failure, unless it is cancelled. -/
theorem Reaches.succ {retry : Nat} (h : Reaches cancelled mark pause outcomes retry)
    (htransient : isRetriableOutcome (outcomes retry) = true)
    (hgo : cancelled ⟨Journal.trace mark pause retry, retry + 1⟩ = false) :
    Reaches cancelled mark pause outcomes (retry + 1) := by
  refine ⟨fun i hi => ?_, fun i hi => ?_⟩
  · rcases Nat.lt_succ_iff_lt_or_eq.1 hi with hi | rfl
    exacts [h.transient i hi, htransient]
  · rcases Nat.lt_succ_iff_lt_or_eq.1 hi with hi | rfl
    exacts [h.notCancelled i hi, hgo]

variable (clock description)

/-- `Ending`: a run that reaches a retry has one of the three endings. -/
theorem ending_of_reaches (hp : p.Paces pause)
    (left : Nat) {retry : Nat}
    (hleft : retry + left = p.maxRetries) (hreach : Reaches cancelled mark pause outcomes retry) :
    Ending p clock pause cancelled description mark outcomes
      (p.scriptedRun clock cancelled description mark outcomes) := by
  -- The induction is on the retries left, so that the attempt in hand is always the next one.
  induction left generalizing retry with
  | zero =>
    obtain rfl : retry = p.maxRetries := hleft
    cases hend : isRetriableOutcome (outcomes p.maxRetries) with
    | false =>
      rw [run_settled clock description mark hp le_rfl hreach hend]
      exact .settled _ le_rfl hreach hend
    | true =>
      obtain ⟨attempts, e, kind, hlen, hl, he, hkind, hr, hrun⟩ :=
        run_exhausted clock description mark hp hreach hend
      rw [hrun]
      exact .exhausted attempts e kind hreach hlen hl he hkind hr
  | succ left ih =>
    have hlt : retry < p.maxRetries := by omega
    cases hend : isRetriableOutcome (outcomes retry) with
    | false =>
      rw [run_settled clock description mark hp hlt.le hreach hend]
      exact .settled _ hlt.le hreach hend
    | true =>
      cases hstop : cancelled ⟨Journal.trace mark pause retry, retry + 1⟩ with
      | false => exact ih (by omega) (hreach.succ hend hstop)
      | true =>
        obtain ⟨attempts, e, hlen, hl, he, hrun⟩ :=
          run_cancelled clock description mark hp hlt hreach hend hstop
        rw [hrun]
        exact .cancelled retry attempts e hlt hreach hstop hlen hl he

/-- `Ending`: every run has one of the three endings. -/
theorem run_ending (cancelled : Journal κ → Bool) (mark : κ) (outcomes : Nat → Except Failure α)
    (hp : p.Paces pause) :
    Ending p clock pause cancelled description mark outcomes
      (p.scriptedRun clock cancelled description mark outcomes) :=
  ending_of_reaches clock description hp p.maxRetries (Nat.zero_add _) .zero

end Run

end ObjectStore.RetryPolicy
