import Mathlib
import ObjectStore.Proofs.Retry.Ending

/-! # Runs that are cancelled

A cancellation is looked at before each retry and nowhere else. So one that is set at some moment of
a run, and stays set, cuts the run short at its next check and changes nothing else: what the run
does is the beginning of what it does without cancellation, and if no check finds the cancellation
set the two runs are the same.

* `FindsCancelled`: a run comes to a check and finds the cancellation set there.
* `scriptedRun_eq_of_not_finds`, `steps_isPrefix`: next to the run without cancellation.
* `Moment`: when a cancellation is set, and the steps that begin after that. -/

namespace ObjectStore

namespace Journal

variable {κ : Type} {mark : κ} {pause : Nat → Number}

/-- `(trace mark pause retries).length = 2 * retries + 1`. -/
theorem length_trace (mark : κ) (pause : Nat → Number) (retries : Nat) :
    (trace mark pause retries).length = 2 * retries + 1 := by
  induction retries with
  | zero => rfl
  | succ retries ih =>
    rw [trace, List.length_append, ih]
    rfl

/-- `trace mark pause i <+: trace mark pause j`: A trace with fewer retries is the beginning of one
with more. -/
theorem trace_isPrefix {i j : Nat} (h : i ≤ j) : trace mark pause i <+: trace mark pause j := by
  induction j, h using Nat.le_induction with
  | base => exact List.prefix_rfl
  | succ j _ ih => exact ih.trans (List.prefix_append _ _)

/-- `(trace mark pause retries).drop (2 * retries) = [.call mark]`: the last step of a trace is a
call. -/
theorem trace_drop (mark : κ) (pause : Nat → Number) (retries : Nat) :
    (trace mark pause retries).drop (2 * retries) = [.call mark] := by
  have hlead : (lead mark pause retries).length = 2 * retries := by
    have h := congrArg List.length (lead_append_call mark pause retries)
    rw [List.length_append, length_trace, List.length_singleton] at h
    omega
  rw [← lead_append_call, ← hlead, List.drop_left]

end Journal

namespace RetryPolicy

section Checks

variable {κ α : Type} {p : RetryPolicy} {clock pause : Nat → Number} {cancelled : Journal κ → Bool}
  {description : String} {mark : κ} {outcomes : Nat → Except Failure α}

/-- That a run, with `retry` retries behind it, comes to the check before the next one and finds the
cancellation set. -/
structure FindsCancelled (p : RetryPolicy) (cancelled : Journal κ → Bool) (mark : κ)
    (pause : Nat → Number) (outcomes : Nat → Except Failure α) (retry : Nat) : Prop where
  left : retry < p.maxRetries
  reached : Reaches cancelled mark pause outcomes retry
  failed : isRetriableOutcome (outcomes retry) = true
  found : cancelled ⟨Journal.trace mark pause retry, retry + 1⟩ = true

/-- `attempts = records` for ledgers of the same run that have the same length. -/
theorem Ledger.ext {attempts records : List Attempt} (h : Ledger clock pause outcomes attempts)
    (h' : Ledger clock pause outcomes records) (hlen : attempts.length = records.length) :
    attempts = records := by
  apply List.ext_getElem hlen
  intro i hi hi'
  obtain ⟨e, kind, he, hkind, -, hrecord⟩ := h.records i hi
  obtain ⟨e', kind', he', hkind', -, hrecord'⟩ := h'.records i hi'
  obtain rfl : e = e' := by simpa [he] using he'
  obtain rfl : kind = kind' := by simpa [hkind] using hkind'
  rw [hrecord, hrecord']

/-- `Reaches`: a run that does not end before a retry does not do so without cancellation either. -/
theorem Reaches.uncancelled {retry : Nat} (h : Reaches cancelled mark pause outcomes retry) :
    Reaches (fun _ => false) mark pause outcomes retry :=
  reaches_of_retriable h.transient

section

variable (clock description)

/-- `¬ FindsCancelled`: a run in which no check finds the cancellation set is the run without
cancellation. -/
theorem scriptedRun_eq_of_not_finds (hp : p.Paces pause)
    (h : ∀ retry, ¬ FindsCancelled p cancelled mark pause outcomes retry) :
    p.scriptedRun clock cancelled description mark outcomes =
      p.scriptedRun clock (fun _ => false) description mark outcomes := by
  have hending := run_ending clock description cancelled mark outcomes hp
  generalize p.scriptedRun clock cancelled description mark outcomes = result at hending ⊢
  cases hending with
  | settled retry hle hreach hend =>
    rw [run_settled clock description mark hp hle hreach.uncancelled hend]
  | exhausted attempts e kind hreach hlen hledger he hkind hr =>
    obtain ⟨records, f, kind', hlen', hledger', hf, hkind', -, hrun⟩ :=
      run_exhausted clock description mark hp hreach.uncancelled
        (isRetriableOutcome_of_kind he hkind hr)
    -- Both runs have kept records of the same attempts, so they fail with the same error.
    obtain rfl : e = f := by simpa [he] using hf
    obtain rfl : kind = kind' := by simpa [hkind] using hkind'
    rw [hrun, hledger.ext hledger' (hlen.trans hlen'.symm)]
  | cancelled retry attempts e hlt hreach hstop hlen hledger he =>
    obtain ⟨f, kind, hf, hkind, hr, -⟩ := hledger.records retry (by omega)
    exact absurd ⟨hlt, hreach, isRetriableOutcome_of_kind hf hkind hr, hstop⟩ (h retry)

/-- `FindsCancelled`: a run that finds the cancellation set ends there, with the error of a
cancelled run. -/
theorem run_of_findsCancelled (hp : p.Paces pause) {retry : Nat}
    (h : FindsCancelled p cancelled mark pause outcomes retry) :
    ∃ attempts e, outcomes retry = .error e ∧
      p.scriptedRun clock cancelled description mark outcomes =
        (.error (cancelledBy description attempts e),
          ⟨Journal.trace mark pause retry, retry + 1⟩) := by
  obtain ⟨attempts, e, -, -, he, hrun⟩ :=
    run_cancelled clock description mark hp h.left h.reached h.failed h.found
  exact ⟨attempts, e, he, hrun⟩

/-- `Journal.trace`: the steps of a run are those of a trace with as many retries as it reaches. -/
theorem exists_steps_eq_trace (cancelled : Journal κ → Bool) (mark : κ)
    (outcomes : Nat → Except Failure α) (hp : p.Paces pause) :
    ∃ retry, Reaches cancelled mark pause outcomes retry ∧
      (p.scriptedRun clock cancelled description mark outcomes).2.steps =
        Journal.trace mark pause retry := by
  have hending := run_ending clock description cancelled mark outcomes hp
  generalize p.scriptedRun clock cancelled description mark outcomes = result at hending ⊢
  cases hending with
  | settled retry _ hreach _ => exact ⟨retry, hreach, rfl⟩
  | exhausted _ _ _ hreach => exact ⟨p.maxRetries, hreach, rfl⟩
  | cancelled retry _ _ _ hreach => exact ⟨retry, hreach, rfl⟩

/-- The steps of `p.scriptedRun` are the beginning of what they are without cancellation. -/
theorem steps_isPrefix (hp : p.Paces pause) :
    (p.scriptedRun clock cancelled description mark outcomes).2.steps <+:
      (p.scriptedRun clock (fun _ => false) description mark outcomes).2.steps := by
  by_cases hfinds : ∃ retry, FindsCancelled p cancelled mark pause outcomes retry
  · obtain ⟨retry, h⟩ := hfinds
    obtain ⟨attempts, e, -, hrun⟩ := run_of_findsCancelled clock description hp h
    have hending := run_ending clock description (fun _ => false) mark outcomes hp
    generalize p.scriptedRun clock (fun _ => false) description mark outcomes = plain at hending ⊢
    rw [hrun]
    cases hending with
    | settled later _ _ hend =>
      -- The first outcome that settles the plain run comes no earlier than the cancellation.
      have hle : retry ≤ later := by
        by_contra hlt
        have htransient := h.reached.transient later (by omega)
        rw [hend] at htransient
        cases htransient
      exact Journal.trace_isPrefix hle
    | exhausted => exact Journal.trace_isPrefix h.left.le
    | cancelled _ _ _ _ _ hstop => cases hstop
  · rw [scriptedRun_eq_of_not_finds clock description hp (not_exists.1 hfinds)]

end

end Checks

end RetryPolicy

/-! ## Moments -/

/-- When a cancellation is set. The steps of a run are counted from zero. -/
inductive Moment
  | never
  | before
  | during (step : Nat)
deriving DecidableEq, Repr

namespace Moment

variable {κ : Type}

/-- How many steps have begun when the cancellation is set, if it ever is. -/
def begun? : Moment → Option Nat
  | never => none
  | before => some 0
  | during step => some (step + 1)

/-- Whether the cancellation is set at `m` once the steps of `j` have been made. -/
def isPast (m : Moment) (j : Journal κ) : Bool := m.begun?.any (· ≤ j.steps.length)

/-- Those of `steps` that begin when the cancellation is set. -/
def later (m : Moment) (steps : List (Step κ)) : List (Step κ) := (m.begun?.map steps.drop).getD []

/-- `m.later`: once the cancellation is set a run makes at most one more call, and no pause. -/
theorem later_trace {α : Type} {m : Moment} {mark : κ} {pause : Nat → Number}
    {outcomes : Nat → Except Failure α} {retry : Nat}
    (h : RetryPolicy.Reaches m.isPast mark pause outcomes retry) :
    m.later (Journal.trace mark pause retry) = [] ∨
      m.later (Journal.trace mark pause retry) = [.call mark] := by
  cases hm : m.begun? with
  | none => exact .inl (by rw [later, hm]; rfl)
  | some n =>
    -- The last check found nothing, so the cancellation is set after the pause that followed it.
    have hn : 2 * retry ≤ n := by
      cases retry with
      | zero => exact Nat.zero_le _
      | succ retry =>
        have hgo := h.notCancelled retry (Nat.lt_succ_self _)
        rw [isPast, hm, Option.any_some, decide_eq_false_iff_not, Journal.length_trace] at hgo
        omega
    have hdrop :
        m.later (Journal.trace mark pause retry) = [Step.call mark].drop (n - 2 * retry) := by
      rw [← Journal.trace_drop mark pause retry, List.drop_drop, later, hm, Option.map_some,
        Option.getD_some]
      congr 1
      omega
    rw [hdrop]
    cases n - 2 * retry with
    | zero => exact .inr rfl
    | succ k => exact .inl (by rw [List.drop_succ_cons, List.drop_nil])

end Moment

/-! ## Cancellation cuts a run short -/

/-- Whether a failure is the error of a cancelled run. -/
def Failure.isCancellation : Failure → Bool
  | library (.cancelled ..) _ _ _ => true
  | _ => false

namespace RetryPolicy

/-- That a run came to `result` because it was cancelled: with the error of a cancelled run, and not
because its last call failed with such an error of another run. -/
def EndsCancelled {κ α : Type} (outcomes : Nat → Except Failure α)
    (result : Except Failure α × Journal κ) : Prop :=
  ∃ n e, result.2.calls.length = n + 1 ∧ result.1 = .error e ∧ e.isCancellation = true ∧
    outcomes n ≠ .error e

section

variable {κ α : Type} {p : RetryPolicy} {clock pause : Nat → Number} {cancelled : Journal κ → Bool}
  {description : String} {mark : κ} {outcomes : Nat → Except Failure α}

/-- `EndsCancelled`: the failure after which a run was cancelled is not the error of the run: it was
worth another attempt. -/
theorem endsCancelled_of_findsCancelled (hp : p.Paces pause) {retry : Nat}
    (h : FindsCancelled p cancelled mark pause outcomes retry) :
    EndsCancelled outcomes (p.scriptedRun clock cancelled description mark outcomes) := by
  obtain ⟨attempts, e, he, hrun⟩ := run_of_findsCancelled clock description hp h
  rw [hrun]
  refine ⟨retry, _, ?_, rfl, rfl, ?_⟩
  · rw [Journal.calls_trace, List.length_replicate]
  · intro hsame
    have hfailed := h.failed
    rw [hsame] at hfailed
    cases hfailed

/-- `¬ EndsCancelled`: a run without cancellation ends with the error of a cancelled run only if its
last call does. -/
theorem not_endsCancelled_uncancelled (hp : p.Paces pause) :
    ¬ EndsCancelled outcomes (p.scriptedRun clock (fun _ => false) description mark outcomes) := by
  have hending := run_ending clock description (fun _ => false) mark outcomes hp
  generalize p.scriptedRun clock (fun _ => false) description mark outcomes = result at hending ⊢
  rintro ⟨n, e, hn, hout, hcancelled, hne⟩
  -- Of the three endings only the first can have such an error, and there it is the last outcome.
  cases hending with
  | settled retry =>
    rw [Journal.calls_trace, List.length_replicate, Nat.add_right_cancel_iff] at hn
    subst hn
    cases e with
    | library topic message context cause => exact hne (eq_of_settledOutcome_eq_library hout)
    | _ => cases hcancelled
  | exhausted =>
    cases hout
    cases hcancelled
  | cancelled _ _ _ _ _ hstop => cases hstop

end

/-- Whatever the `moment` at which a run is cancelled, it does the beginning of what the run without
cancellation does. It ends cancelled exactly if one of its checks finds the cancellation set, and
else it is the run without cancellation. Once the cancellation is set no pause begins, and at most
one call. -/
theorem run_cut_short {α : Type} (retries : Nat) (base greatest : Double) (clock : Nat → Number)
    (description : String) (outcomes : Nat → Except Failure α) (moment : Moment) :
    ∃ pause : Nat → Number,
      (∀ retry, delay ⟨retries, .double base, .double greatest⟩ retry = .ok (pause retry)) ∧
      let p : RetryPolicy := ⟨retries, .double base, .double greatest⟩
      let plain := p.scriptedRun clock (fun _ => false) description () outcomes
      let cut := p.scriptedRun clock moment.isPast description () outcomes
      cut.2.steps <+: plain.2.steps ∧
      (EndsCancelled outcomes cut ↔
        ∃ retry, FindsCancelled p moment.isPast () pause outcomes retry) ∧
      ((∀ retry, ¬ FindsCancelled p moment.isPast () pause outcomes retry) → cut = plain) ∧
      (moment.later cut.2.steps = [] ∨ moment.later cut.2.steps = [.call ()]) := by
  have hp := paces_double retries base greatest
  refine ⟨pauseBefore base greatest, delay_double retries base greatest,
    steps_isPrefix clock description hp, ⟨?_, ?_⟩,
    scriptedRun_eq_of_not_finds clock description hp, ?_⟩
  · -- Were it found by no check, the run would be the one without cancellation, which does not end
    -- so.
    intro hends
    by_contra hnone
    rw [scriptedRun_eq_of_not_finds clock description hp (not_exists.1 hnone)] at hends
    exact not_endsCancelled_uncancelled hp hends
  · rintro ⟨retry, h⟩
    exact endsCancelled_of_findsCancelled hp h
  · -- The steps are a trace up to the retry that is reached, and that tells what comes later.
    obtain ⟨retry, hreach, hsteps⟩ :=
      exists_steps_eq_trace clock description moment.isPast () outcomes hp
    rw [hsteps]
    exact Moment.later_trace hreach

/-- An operation that runs another one with retries, and fails because that run was cancelled. -/
def cancelledInside (_ : Nat) : Except Failure Unit :=
  .error (.cancelledError (.text "inner") [] none)

/-- The error of the run inside `cancelledInside` is passed on: the run around it ends with the
error of a cancelled run although it comes to no check. -/
theorem run_cancelledInside_finds_nothing :
    ¬ ((∃ e, (scriptedRun ⟨0, .double .zero, .double .zero⟩ (fun i => .int i) Moment.never.isPast
          "outer" () cancelledInside).1 = .error e ∧ e.isCancellation = true) ↔
        ∃ retry, FindsCancelled ⟨0, .double .zero, .double .zero⟩ Moment.never.isPast ()
          (pauseBefore .zero .zero) cancelledInside retry) := by
  have hreach : Reaches Moment.never.isPast () (pauseBefore .zero .zero) cancelledInside 0 := .zero
  have hrun := run_settled (fun i => .int i) "outer" () (paces_double 0 .zero .zero) le_rfl hreach
    rfl
  intro hiff
  obtain ⟨retry, h⟩ := hiff.1 ⟨_, by rw [hrun]; rfl, rfl⟩
  exact absurd h.left (Nat.not_lt_zero retry)

end RetryPolicy

end ObjectStore
