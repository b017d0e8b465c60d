import Mathlib
import ObjectStore.Proofs.Retry.Ending

/-! # The account of an ended run

A run that ends exhausted or cancelled gives an account of itself: a record for each call, with the
pause that was planned after it. The pause is planned when an attempt has failed and made only after
the run was found not to be cancelled, so the account is right only if the pauses planned are the
pauses made. `Accounts` says so of an error and the journal of its run.

An operation may fail with such an error of a run of its own. That error is passed on as it is, and
gives account of the other run. -/

namespace ObjectStore.RetryPolicy

/-- That an error gives account of a run: the records that it carries, also in its context, are one
for each call, and tell of each call's failure, the clock's reading after it and the pause made
before the next call. -/
structure Accounts {κ α : Type} (clock : Nat → Number) (outcomes : Nat → Except Failure α)
    (greatest : Number) (records : List Attempt) (topic : Topic Failure) (context : Entries)
    (j : Journal κ) : Prop where
  ended : topic.className = "RetryExhaustedError" ∨ topic.className = "OperationCancelledError"
  attempts : topic.attempts? = some (records.map Attempt.details)
  details : context.getText? "attempts" = some (.list (records.map Attempt.details))
  count : records.length = j.calls.length
  /-- Each record tells of the failure of its call. -/
  record : ∀ i (h : i < records.length), ∃ e kind delay, outcomes i = .error e ∧
    e.kind = .ok kind ∧ kind.retriable = true ∧
    records[i] = ⟨i + 1, e.message, e.className, kind, clock i, delay⟩
  /-- The pauses planned are the pauses made. -/
  pauses : records.dropLast.map Attempt.delay = j.pauses.map some
  ordered : j.pauses.Pairwise fun a b => a.le b = true
  bounded : ∀ x ∈ j.pauses, x.le greatest = true
  /-- The last record tells of the error's last failure, and plans no pause exactly if the run is
  exhausted. -/
  last : ∃ r e, records.getLast? = some r ∧ topic.lastError? = some (.failure e) ∧
    e.message = r.error ∧ (r.delay = none ↔ topic.className = "RetryExhaustedError")

section Ledger

variable {κ α : Type} {clock pause : Nat → Number} {outcomes : Nat → Except Failure α}
  {attempts : List Attempt}

/-- `attempts.map Attempt.delay`: the pauses that a ledger plans, in order. -/
theorem Ledger.map_delay (hl : Ledger clock pause outcomes attempts) :
    attempts.map Attempt.delay =
      (List.range attempts.length).map fun i => some (pause (i + 1)) := by
  apply List.ext_getElem
  · simp
  · intro i hi _
    rw [List.length_map] at hi
    obtain ⟨e, kind, -, -, -, hrecord⟩ := hl.records i hi
    rw [List.getElem_map, hrecord, List.getElem_map, List.getElem_range]
    rfl

/-- The records of a ledger but the last plan the pauses between the calls. -/
theorem Ledger.map_delay_dropLast (hl : Ledger clock pause outcomes attempts) {retry : Nat}
    (hlen : attempts.length = retry + 1) :
    attempts.dropLast.map Attempt.delay =
      ((List.range retry).map fun i => pause (i + 1)).map some := by
  rw [List.map_dropLast, hl.map_delay, hlen, List.range_succ, List.map_append, List.map_singleton,
    List.dropLast_concat, List.map_map]
  rfl

/-- The record at a place of a ledger, with its pause left open. -/
theorem Ledger.record (hl : Ledger clock pause outcomes attempts) (i : Nat)
    (h : i < attempts.length) :
    ∃ e kind delay, outcomes i = .error e ∧ e.kind = .ok kind ∧ kind.retriable = true ∧
      attempts[i] = ⟨i + 1, e.message, e.className, kind, clock i, delay⟩ := by
  obtain ⟨e, kind, he, hkind, hr, hrecord⟩ := hl.records i h
  exact ⟨e, kind, some (pause (i + 1)), he, hkind, hr, hrecord⟩

end Ledger

section Accounts

variable {κ α : Type} {clock pause : Nat → Number} {mark : κ} {outcomes : Nat → Except Failure α}
  {greatest : Number} {description : String} {attempts : List Attempt} {e : Failure}

/-- `Journal.pauses`: the pauses of a trace never get shorter if those of its policy do not. -/
theorem pairwise_pauses_trace (hmono : ∀ i j, i ≤ j → (pause i).le (pause j) = true)
    (retries readings : Nat) :
    (⟨Journal.trace mark pause retries, readings⟩ : Journal κ).pauses.Pairwise
      fun a b => a.le b = true := by
  rw [Journal.pauses_trace, List.pairwise_map]
  exact (List.pairwise_lt_range (n := retries)).imp fun h => hmono _ _ (by omega)

/-- `pause i` is not above `greatest` for any `i`: no pause of a trace is. -/
theorem le_of_mem_pauses_trace (hbound : ∀ i, (pause i).le greatest = true) {retries readings : Nat}
    {x : Number} (hx : x ∈ (⟨Journal.trace mark pause retries, readings⟩ : Journal κ).pauses) :
    x.le greatest = true := by
  rw [Journal.pauses_trace, List.mem_map] at hx
  obtain ⟨i, -, rfl⟩ := hx
  exact hbound (i + 1)

/-- `cancelledBy`: the error of a cancelled run gives account of it. -/
theorem cancelledBy_accounts (hmono : ∀ i j, i ≤ j → (pause i).le (pause j) = true)
    (hbound : ∀ i, (pause i).le greatest = true) {retry readings : Nat}
    (hlen : attempts.length = retry + 1) (hl : Ledger clock pause outcomes attempts)
    (he : outcomes retry = .error e) :
    ∃ topic message context cause,
      cancelledBy description attempts e = .library topic message context cause ∧
        Accounts clock outcomes greatest attempts topic context
          (⟨Journal.trace mark pause retry, readings⟩ : Journal κ) := by
  refine ⟨_, _, _, _, rfl, ?_⟩
  constructor
  · exact .inr rfl
  · rfl
  · simp [Entries.getText?_cons_text]
  · rw [Journal.calls_trace, List.length_replicate, hlen]
  · exact hl.record
  · rw [Journal.pauses_trace]
    exact hl.map_delay_dropLast hlen
  · exact pairwise_pauses_trace hmono retry readings
  · exact fun x hx => le_of_mem_pauses_trace hbound hx
  · -- The last record is that of the attempt that was cut short.
    have hi : retry < attempts.length := by omega
    obtain ⟨f, kind, hf, -, -, hrecord⟩ := hl.records retry hi
    obtain rfl : e = f := by simpa [he] using hf
    refine ⟨attempts[retry], e, ?_, rfl, ?_, ?_⟩
    · rw [List.getLast?_eq_getElem?, hlen, Nat.add_sub_cancel, List.getElem?_eq_getElem hi]
    · rw [hrecord]
      rfl
    · rw [hrecord]
      simp [recordOf, Topic.className]

/-- `exhausted`: the error of an exhausted run gives account of it. -/
theorem exhausted_accounts (hmono : ∀ i j, i ≤ j → (pause i).le (pause j) = true)
    (hbound : ∀ i, (pause i).le greatest = true) {retry readings : Nat} {kind : ErrorKind}
    (hlen : attempts.length = retry) (hl : Ledger clock pause outcomes attempts)
    (he : outcomes retry = .error e) (hkind : e.kind = .ok kind) (hr : kind.retriable = true) :
    ∃ topic message context cause,
      exhausted description (attempts ++ [recordOf (retry + 1) e kind (clock retry) none]) e =
          .library topic message context cause ∧
        Accounts clock outcomes greatest
          (attempts ++ [recordOf (retry + 1) e kind (clock retry) none]) topic context
          (⟨Journal.trace mark pause retry, readings⟩ : Journal κ) := by
  refine ⟨_, _, _, _, rfl, ?_⟩
  constructor
  · exact .inl rfl
  · rfl
  · simp [Entries.getText?_cons_text]
  · rw [Journal.calls_trace, List.length_replicate, List.length_append, List.length_singleton, hlen]
  · intro i h
    by_cases hi : i < attempts.length
    · rw [List.getElem_append_left hi]
      exact hl.record i hi
    · -- the record of the last attempt, which the ledger does not hold
      obtain rfl : i = attempts.length := by
        rw [List.length_append, List.length_singleton] at h
        omega
      rw [List.getElem_concat_length rfl]
      rw [← hlen] at he
      refine ⟨e, kind, none, he, hkind, hr, ?_⟩
      rw [hlen]
      rfl
  · rw [List.dropLast_concat, hl.map_delay, Journal.pauses_trace, List.map_map, hlen]
    rfl
  · exact pairwise_pauses_trace hmono retry readings
  · exact fun x hx => le_of_mem_pauses_trace hbound hx
  · refine ⟨recordOf (retry + 1) e kind (clock retry) none, e, ?_, rfl, rfl, ?_⟩
    · rw [List.getLast?_concat]
    · simp [recordOf, Topic.className]

end Accounts

/-! ## Runs that end with such an error -/

/-- `make (.int n) (.double base) (.double greatest)`: the policy of a whole number that is not
below zero and of two doubles that are not. -/
theorem make_double {n : Nat} {base greatest : Double}
    (hbase : (Number.double base).lt (.int 0) = false)
    (hgreatest : (Number.double greatest).lt (.int 0) = false) :
    make (.int n) (.double base) (.double greatest) =
      .ok ⟨n, .double base, .double greatest⟩ := by
  have hn : ¬ (n : Int) < 0 := by omega
  simp only [make, retriesOf, delayOf, Value.number?]
  rw [if_neg hn, hbase, hgreatest]
  rfl

/-- However a run is cancelled, if it ends with an error of this library, either that is the error
of its last call, which was not worth another attempt, or the run is exhausted or cancelled and the
error gives account of it, by `Accounts`. -/
theorem run_accounts {κ α : Type} {retries : Int} {base greatest : Double} {p : RetryPolicy}
    (hp : make (.int retries) (.double base) (.double greatest) = .ok p)
    (hb : base.isFinite = true) (hg : greatest.isFinite = true) (clock : Nat → Number)
    (cancelled : Journal κ → Bool) (description : String) (mark : κ)
    (outcomes : Nat → Except Failure α) {topic : Topic Failure} {message : Value}
    {context : Entries} {cause : Option Failure} {j : Journal κ}
    (hrun : p.scriptedRun clock cancelled description mark outcomes =
      (.error (.library topic message context cause), j)) :
    (∃ i, j.calls.length = i + 1 ∧ outcomes i = .error (.library topic message context cause) ∧
        isRetriableOutcome (outcomes i) = false) ∨
      ∃ records, Accounts clock outcomes (.double greatest) records topic context j := by
  obtain ⟨rfl, hpos, -⟩ := make_double_eq_ok hp
  have hmono : ∀ i j, i ≤ j →
      (pauseBefore base greatest i).le (pauseBefore base greatest j) = true :=
    fun _ _ => pauseBefore_le_pauseBefore hb hpos hg
  have hbound := pauseBefore_le hb hg
  have hending := run_ending clock description cancelled mark outcomes
    (paces_double retries.toNat base greatest)
  rw [hrun] at hending
  -- The result is set apart, so that the ending may be taken by cases.
  generalize hresult : (Except.error (Failure.library topic message context cause), j) = result
    at hending
  cases hending with
  | settled retry hle hreach hend =>
    obtain ⟨hout, rfl⟩ := Prod.mk.inj hresult
    refine .inl ⟨retry, ?_, eq_of_settledOutcome_eq_library hout.symm, hend⟩
    rw [Journal.calls_trace, List.length_replicate]
  | exhausted attempts e kind hreach hlen hledger he hkind hr =>
    obtain ⟨hout, rfl⟩ := Prod.mk.inj hresult
    obtain ⟨topic', _, context', _, heq, haccounts⟩ := exhausted_accounts hmono hbound hlen hledger
      he hkind hr
    rw [heq] at hout
    cases hout
    exact .inr ⟨_, haccounts⟩
  | cancelled retry attempts e hlt hreach hstop hlen hledger he =>
    obtain ⟨hout, rfl⟩ := Prod.mk.inj hresult
    obtain ⟨topic', _, context', _, heq, haccounts⟩ :=
      cancelledBy_accounts hmono hbound hlen hledger
      he
    rw [heq] at hout
    cases hout
    exact .inr ⟨_, haccounts⟩

/-- An operation that always runs out of time. -/
def alwaysSlow (_ : Nat) : Except Failure Unit :=
  .error (.timeoutError (.text "slow") .null [])

/-- Every attempt of `alwaysSlow` fails, and the error gives account of the three calls. -/
theorem run_accounts_alwaysSlow :
    ∃ p, make (.int 2) (.double (Double.ofRatio false 1 2)) (.double (Double.ofRatio false 3 1)) =
        .ok p ∧ (Double.ofRatio false 1 2).isFinite = true ∧
      (Double.ofRatio false 3 1).isFinite = true ∧
      ∃ topic message context cause j,
        p.scriptedRun (fun i => .int i) (fun _ => false) "poll" () alwaysSlow =
          (.error (.library topic message context cause), j) ∧
        ∃ records, Accounts (fun i => .int i) alwaysSlow (.double (Double.ofRatio false 3 1))
          records topic context j := by
  have hbase : (Number.double (Double.ofRatio false 1 2)).lt (.int 0) = false := by decide +kernel
  have hgreatest : (Number.double (Double.ofRatio false 3 1)).lt (.int 0) = false := by
    decide +kernel
  have hp := make_double (n := 2) hbase hgreatest
  have hb : (Double.ofRatio false 1 2).isFinite = true := by decide +kernel
  have hg : (Double.ofRatio false 3 1).isFinite = true := by decide +kernel
  have hreach : Reaches (fun _ : Journal Unit => false) ()
      (pauseBefore (Double.ofRatio false 1 2) (Double.ofRatio false 3 1)) alwaysSlow 2 :=
    ⟨fun _ _ => rfl, fun _ _ => rfl⟩
  obtain ⟨attempts, e, kind, -, -, -, -, -, hrun⟩ :=
    run_exhausted (fun i => .int i) "poll" () (paces_double 2 _ _) hreach rfl
  refine ⟨_, hp, hb, hg, _, _, _, _, _, hrun, ?_⟩
  rcases run_accounts hp hb hg _ _ _ _ _ hrun with ⟨i, -, -, hend⟩ | haccounts
  · cases hend
  · exact haccounts

/-- An operation that runs another one with retries, and fails with the error of that run,
`exhaustedError`. -/
def nested (_ : Nat) : Except Failure Unit :=
  .error (.exhaustedError (.text "inner") (.int 0) [] (.text "boom") none)

/-- The error of the run inside `nested` is passed on: it is an error that a run is exhausted, but
carries no record of the one call that was made. -/
theorem run_nested_does_not_account :
    ∃ p, make (.int 0) (.double .zero) (.double .zero) = .ok p ∧
      ∃ topic message context cause j,
        p.scriptedRun (fun i => .int i) (fun _ => false) "outer" () nested =
          (.error (.library topic message context cause), j) ∧
        topic.className = "RetryExhaustedError" ∧ j.calls.length = 1 ∧
        ∀ records, ¬ Accounts (fun i => .int i) nested (.double .zero) records topic context j := by
  have hzero : (Number.double .zero).lt (.int 0) = false := by decide +kernel
  have hreach : Reaches (fun _ : Journal Unit => false) () (pauseBefore .zero .zero) nested 0 :=
    .zero
  have hrun := run_settled (fun i => .int i) "outer" () (paces_double 0 .zero .zero) le_rfl hreach
    rfl
  refine ⟨_, make_double (n := 0) hzero hzero, _, _, _, _, _, hrun, rfl, rfl, ?_⟩
  intro records haccounts
  have hnone : records.map Attempt.details = [] := (Option.some.inj haccounts.attempts).symm
  rw [List.map_eq_nil_iff] at hnone
  subst hnone
  exact absurd haccounts.count (by decide)

end ObjectStore.RetryPolicy
