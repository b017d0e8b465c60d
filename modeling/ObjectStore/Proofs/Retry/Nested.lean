import Mathlib
import ObjectStore.Proofs.Retry.Ending

/-! # Runs inside runs

A run may have another run as its operation. Whatever way the run inside ends, it is not worth
another attempt: what it returns is returned, and its failures are of no retriable kind, since the
transient ones have been used up inside. So the run around it has one attempt and no pause, and
attempts never multiply.

* `Action.FailsOnly`: the failures of an action are of some sort, one lemma for each way in which
  actions are put together.
* `run_failsOnly_isFinal`: the failures of runs are final.
* `run_of_failsOnly_isFinal`: a run of an operation with such failures is one attempt. -/

namespace ObjectStore

/-! ## The failures of actions -/

namespace Action

variable {σ α β : Type} {P : Failure → Prop}

/-- That every failure of `a` is of the sort `P`. -/
def FailsOnly (P : Failure → Prop) (a : Action σ α) : Prop := ∀ s e, (a s).1 = .error e → P e

/-- `(a >>= f).FailsOnly P` if `a` and each `f x` fail in this way only. -/
theorem FailsOnly.bind {a : Action σ α} {f : α → Action σ β} (ha : a.FailsOnly P)
    (hf : ∀ x, (f x).FailsOnly P) : (a >>= f).FailsOnly P := by
  intro s e h
  have hfirst := ha s
  rw [bind_run] at h
  rcases hrun : a s with ⟨_ | x, t⟩
  · rw [hrun] at h hfirst
    cases h
    exact hfirst e rfl
  · rw [hrun] at h
    exact hf x t e h

/-- `a.FailsOnly P`: an action that always returns has no failures. -/
theorem FailsOnly.of_ok {a : Action σ α} (h : ∀ s, ∃ x, (a s).1 = .ok x) : a.FailsOnly P := by
  intro s e he
  obtain ⟨x, hx⟩ := h s
  rw [hx] at he
  cases he

/-- `(Action.done r).FailsOnly P`: what is there already fails only as it does. -/
theorem FailsOnly.done {r : Except Failure α} (h : ∀ e, r = .error e → P e) :
    (Action.done r : Action σ α).FailsOnly P := fun _ => h

/-- `(throw e).FailsOnly P` if `P e`. -/
theorem FailsOnly.throw {e : Failure} (h : P e) : (throw e : Action σ α).FailsOnly P := by
  intro s f hf
  cases hf
  exact h

end Action

/-! ## Final failures -/

/-- That the kind of `e` is known, and not a retriable one. -/
def Failure.IsFinal (e : Failure) : Prop := ∃ kind, e.kind = .ok kind ∧ kind.retriable = false

namespace RetryPolicy

variable {σ α : Type} {p : RetryPolicy} {fx : Effects σ} {cancelled : σ → Bool}
  {description : String}

/-- `p.delay retry = .error e`: where a pause is missing, that is because the base delay is beyond
the doubles. -/
theorem isFinal_of_delay {retry : Nat} {e : Failure} (h : p.delay retry = .error e) :
    e.IsFinal := by
  unfold delay doubled at h
  split at h
  · cases h
    exact ⟨_, rfl, rfl⟩
  · cases h

/-- `p.recordAttempt = .error e`: an attempt that cannot be recorded is a final failure. -/
theorem isFinal_of_recordAttempt {number : Nat} {f : Failure} {kind : ErrorKind}
    {timestamp : Number} {isLast : Bool} {e : Failure}
    (h : p.recordAttempt number f kind timestamp isLast = .error e) : e.IsFinal := by
  unfold recordAttempt at h
  split at h
  · cases h
  · cases hd : p.delay number with
    | ok d =>
      rw [hd] at h
      cases h
    | error g =>
      rw [hd] at h
      cases h
      exact isFinal_of_delay hd

/-- `x.fixed places = .error e`: A number that cannot be written is a final failure. -/
theorem isFinal_of_fixed {places : Nat} {x : Number} {e : Failure} (h : x.fixed places = .error e) :
    e.IsFinal := by
  unfold Number.fixed at h
  split at h
  · cases h
  · cases h
    exact ⟨_, rfl, rfl⟩

/-- `succeed` does not fail. -/
theorem succeed_failsOnly (attempts : List Attempt) (x : α) :
    (succeed fx description attempts x).FailsOnly Failure.IsFinal := by
  refine .of_ok fun s => ⟨x, ?_⟩
  unfold succeed
  by_cases h : attempts.isEmpty = true <;> simp [h, Action.bind_run]

/-- `p.giveUp` fails with a final failure. -/
theorem giveUp_failsOnly (attempts : List Attempt) (e : Failure) (kind : ErrorKind) :
    (p.giveUp fx description attempts e kind : Action σ α).FailsOnly Failure.IsFinal :=
  .bind (.of_ok fun _ => ⟨_, rfl⟩) fun _ => .bind (.done fun _ => isFinal_of_recordAttempt) fun _ =>
    .bind (.of_ok fun _ => ⟨_, rfl⟩) fun _ => .throw ⟨_, rfl, rfl⟩

/-- `stop` fails with a final failure. -/
theorem stop_failsOnly (attempts : List Attempt) (e : Failure) :
    (stop fx description attempts e : Action σ α).FailsOnly Failure.IsFinal :=
  .bind (.of_ok fun _ => ⟨_, rfl⟩) fun _ => .throw ⟨_, rfl, rfl⟩

/-- `p.tryAgain` fails only with a final failure, if the further attempts do. -/
theorem tryAgain_failsOnly {rest : List Attempt → Action σ α}
    (hrest : ∀ attempts, (rest attempts).FailsOnly Failure.IsFinal) (attempts : List Attempt)
    (e : Failure) (kind : ErrorKind) :
    (p.tryAgain fx cancelled description attempts rest e kind).FailsOnly Failure.IsFinal := by
  unfold tryAgain
  refine .bind (.of_ok fun _ => ⟨_, rfl⟩) fun time => ?_
  refine .bind (.done fun _ => isFinal_of_recordAttempt) fun record => ?_
  refine .bind (.done fun _ => isFinal_of_delay) fun pause => ?_
  refine .bind (.done fun _ => isFinal_of_fixed) fun shown => ?_
  refine .bind (.of_ok fun _ => ⟨_, rfl⟩) fun _ => ?_
  refine .bind (.of_ok fun _ => ⟨_, rfl⟩) fun s => ?_
  split
  · exact stop_failsOnly _ e
  · exact .bind (.of_ok fun _ => ⟨_, rfl⟩) fun _ => hrest _

/-- `round` fails finally if what follows a transient failure does: the other failures are final
themselves, or their kind is unknown, which is a final failure in its turn. -/
theorem round_failsOnly {operation : Action σ α} {attempts : List Attempt}
    {onTransient : Failure → ErrorKind → Action σ α}
    (h : ∀ e kind, (onTransient e kind).FailsOnly Failure.IsFinal) :
    (round fx description operation attempts onTransient).FailsOnly Failure.IsFinal := by
  intro s f hf
  rcases hrun : operation s with ⟨e | x, t⟩
  · cases hkind : e.kind with
    | ok kind =>
      rw [round_error hrun hkind] at hf
      split at hf
      · exact h e kind t f hf
      · next hr =>
        cases hf
        exact ⟨kind, hkind, by simpa using hr⟩
    | error g =>
      -- The kind of `e` is unknown: the failure to find it is a misuse, which is final.
      rw [round_unknown hrun hkind] at hf
      cases hf
      obtain ⟨m, rfl⟩ := Failure.kind_eq_error hkind
      exact ⟨_, rfl, rfl⟩
  · rw [round_ok hrun] at hf
    exact succeed_failsOnly attempts x t f hf

/-- `p.run` has final failures only, whatever its operation fails with. -/
theorem run_failsOnly (operation : Action σ α) :
    (p.run fx cancelled description operation).FailsOnly Failure.IsFinal := by
  -- On the retries that are left: what follows a transient failure is a run with one retry less.
  have hfrom : ∀ retries attempts,
      (p.runFrom fx cancelled description operation retries attempts).FailsOnly
        Failure.IsFinal := by
    intro retries
    induction retries with
    | zero => exact fun attempts => round_failsOnly (giveUp_failsOnly attempts)
    | succ retries ih => exact fun attempts => round_failsOnly (tryAgain_failsOnly ih attempts)
  exact hfrom p.maxRetries []

/-! ## A run of one attempt -/

/-- What a run leaves of the outcome of its operation if it has one attempt only: a failure is
written to the log. -/
def passedOn (fx : Effects σ) (description : String) :
    Except Failure α × σ → Except Failure α × σ
  | (.ok x, s) => (.ok x, s)
  | (.error e, s) =>
    (.error e, fx.log ⟨.debug, retryLogger,
      "'" ++ description ++ "' failed with non-retriable " ++ e.className ++ ": " ++ e.message⟩ s)

/-- `p.run` has one attempt if its operation fails only finally. -/
theorem run_of_failsOnly {operation : Action σ α} (h : operation.FailsOnly Failure.IsFinal)
    (s : σ) :
    p.run fx cancelled description operation s = passedOn fx description (operation s) := by
  -- What would follow a transient failure is never reached, so the policy does not matter.
  have hround : ∀ next : Failure → ErrorKind → Action σ α,
      round fx description operation [] next s = passedOn fx description (operation s) := by
    intro next
    have hfinal := h s
    rcases hrun : operation s with ⟨e | x, t⟩
    · rw [hrun] at hfinal
      obtain ⟨kind, hkind, hr⟩ := hfinal e rfl
      rw [round_error hrun hkind, if_neg (by simp [hr])]
      rfl
    · rw [round_ok hrun]
      rfl
  unfold run
  cases p.maxRetries <;> exact hround _

/-- Retries around retries add nothing. Whatever the policies `outer` and `inner`, their effects and
their cancellations, the run around another one runs it once, makes no pause of its own and ends as
it does; only a failure is written to the log again. In a journal, in which the log is left out, the
run around is the run inside: the same calls and pauses in the same order. -/
theorem run_run (outer inner : RetryPolicy) (description description' : String) :
    (∀ {σ α : Type} (fx fx' : Effects σ) (cancelled cancelled' : σ → Bool)
        (operation : Action σ α) (s : σ),
      outer.run fx cancelled description (inner.run fx' cancelled' description' operation) s =
        passedOn fx description (inner.run fx' cancelled' description' operation s)) ∧
      ∀ {κ α : Type} (clock clock' : Nat → Number) (cancelled cancelled' : Journal κ → Bool)
        (mark : κ) (outcomes : Nat → Except Failure α),
      outer.run (Journal.effects clock) cancelled description
          (inner.run (Journal.effects clock') cancelled' description'
            (Journal.scripted mark outcomes)) Journal.start =
        inner.scriptedRun clock' cancelled' description' mark outcomes := by
  refine ⟨fun fx fx' cancelled cancelled' operation s => run_of_failsOnly (run_failsOnly _) s, ?_⟩
  intro κ α clock clock' cancelled cancelled' mark outcomes
  rw [run_of_failsOnly (run_failsOnly _), scriptedRun]
  rcases inner.run (Journal.effects clock') cancelled' description'
    (Journal.scripted mark outcomes) Journal.start with ⟨_ | _, j⟩ <;> rfl

end RetryPolicy

end ObjectStore
