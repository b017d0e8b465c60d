import Mathlib
import ObjectStore.Proofs.Connection.Calls

/-! # Checks, then calls

Calls that are sent in turn end with the first one that is not answered. An action that makes all of
its checks before it sends anything follows a plan: an objection, with which it is refused, or the
calls that it sends, and then it returns what the last answer comes to. A plan is made without a
connection, so it cannot depend on the answers.

* `Connection.sendAll`: calls in turn.
* `sendAll_of_error`, `sendAll_of_ok`: where they end, and what is returned.
* `Action.Follows`: that an action follows a plan, one lemma for each way in which such actions are
  put together. -/

namespace ObjectStore

/-! ## Calls in turn -/

/-- Calls in turn, ended by the first that fails. The last answer is returned, which is given for
the case that there are no calls. -/
def Connection.sendAll {σ : Type} (connection : Connection σ) : List Call → Value → Action σ Value
  | [], last => pure last
  | call :: calls, _ => do
    let answer ← connection.perform call
    connection.sendAll calls answer

/-- `connection.sendAll [call] last = connection.perform call`. -/
theorem Connection.sendAll_singleton {σ : Type} (connection : Connection σ) (call : Call)
    (last : Value) : connection.sendAll [call] last = connection.perform call := bind_pure _

namespace Journal

/-- The journal with the further `calls`. -/
def addCalls (j : Journal Call) (calls : List Call) : Journal Call :=
  { j with steps := j.steps ++ calls.map .call }

/-- `j.addCalls [] = j`. -/
theorem addCalls_nil (j : Journal Call) : j.addCalls [] = j := by
  rw [addCalls, List.map_nil, List.append_nil]

/-- `(j.add (.call call)).addCalls calls = j.addCalls (call :: calls)`. -/
theorem addCalls_add (j : Journal Call) (call : Call) (calls : List Call) :
    (j.add (.call call)).addCalls calls = j.addCalls (call :: calls) := by
  simp [addCalls, add]

/-- The answers that are left after a call are those of the calls after it. -/
theorem length_calls_add_add (j : Journal Call) (call : Call) (i : Nat) :
    (j.add (.call call)).calls.length + i = j.calls.length + (i + 1) := by
  have hlength : (j.add (.call call)).calls.length = j.calls.length + 1 := by simp [calls, add]
  omega

variable {answers : Nat → Except Failure Value} {j : Journal Call} {call : Call} {sent : List Call}

/-- `sendAll (call :: sent)`: nothing is sent after a call that fails. -/
theorem sendAll_cons_of_error {e : Failure} (h : answers j.calls.length = .error e) (last : Value) :
    (connection answers).sendAll (call :: sent) last j = (.error e, j.addCalls [call]) := by
  have hcall : (connection answers).perform call j = (answers j.calls.length, j.add (.call call)) :=
    rfl
  rw [h] at hcall
  rw [Connection.sendAll, Action.bind_run_error hcall, ← addCalls_add, addCalls_nil]

/-- `sendAll (call :: sent)`: after a call that is answered the others are sent, with its answer as
the last so far. -/
theorem sendAll_cons_of_ok {v : Value} (h : answers j.calls.length = .ok v) (last : Value) :
    (connection answers).sendAll (call :: sent) last j =
      (connection answers).sendAll sent v (j.add (.call call)) := by
  have hcall : (connection answers).perform call j = (answers j.calls.length, j.add (.call call)) :=
    rfl
  rw [h] at hcall
  rw [Connection.sendAll, Action.bind_run_ok hcall]

/-- `sendAll sent` ends right after the first call that fails, with its failure. -/
theorem sendAll_of_error {k : Nat} {e : Failure} (hk : k < sent.length)
    (hbefore : ∀ i < k, ∃ v, answers (j.calls.length + i) = .ok v)
    (hfail : answers (j.calls.length + k) = .error e) (last : Value) :
    (connection answers).sendAll sent last j = (.error e, j.addCalls (sent.take (k + 1))) := by
  -- On the calls: behind an answered one, the failing answer is one call nearer.
  induction sent generalizing j k last with
  | nil => exact absurd hk (Nat.not_lt_zero k)
  | cons call calls ih =>
    cases k with
    | zero => exact sendAll_cons_of_error hfail last
    | succ k =>
      obtain ⟨v, hv⟩ := hbefore 0 (Nat.succ_pos k)
      rw [sendAll_cons_of_ok hv, List.take_succ_cons, ← addCalls_add]
      refine ih (Nat.lt_of_succ_lt_succ hk) (fun i hi => ?_) ?_ v
      · rw [length_calls_add_add]
        exact hbefore (i + 1) (Nat.succ_lt_succ hi)
      · rw [length_calls_add_add]
        exact hfail

/-- `sendAll sent` comes to the last answer if all calls are answered. -/
theorem sendAll_of_ok {given : Nat → Value}
    (hall : ∀ i < sent.length, answers (j.calls.length + i) = .ok (given i)) (last : Value) :
    (connection answers).sendAll sent last j =
      (.ok (if sent = [] then last else given (sent.length - 1)), j.addCalls sent) := by
  induction sent generalizing j given last with
  | nil =>
    rw [addCalls_nil]
    rfl
  | cons call calls ih =>
    have hcalls : ∀ i < calls.length,
        answers ((j.add (.call call)).calls.length + i) = .ok (given (i + 1)) := by
      intro i hi
      rw [length_calls_add_add]
      exact hall (i + 1) (Nat.succ_lt_succ hi)
    rw [sendAll_cons_of_ok (hall 0 (Nat.succ_pos _)), ih hcalls, addCalls_add]
    cases calls <;> rfl

end Journal

/-! ## Checks first -/

namespace Action

variable {α β : Type}

/-- `done r >>= pure ∘ f = done (r.map f)`: A result that is there already is mapped by what follows
it. -/
theorem done_bind_pure {σ : Type} (r : Except Failure α) (f : α → β) :
    (done r >>= fun x => pure (f x) : Action σ β) = done (r.map f) := by
  cases r <;> rfl

/-- That an action, given answers to its calls, follows a plan: `done plan >>= sendAll`. It fails
with the plan's objection, or sends the planned calls, and what it returns is read from the last
answer. -/
def Follows (plan : Except Failure (List Call)) (read : Value → Except Failure α)
    (a : (Nat → Except Failure Value) → Action (Journal Call) α) : Prop :=
  ∀ answers, a answers = done plan >>= fun sent =>
    (Journal.connection answers).sendAll sent .null >>= fun v => done (read v)

/-- `sendAll sent` follows the plan to make the calls `sent`. -/
theorem Follows.sendAll (sent : List Call) :
    Follows (.ok sent) .ok fun answers => (Journal.connection answers).sendAll sent .null :=
  fun _ => (bind_pure _).symm

/-- `perform call` follows the plan to make the one call. -/
theorem Follows.perform (call : Call) :
    Follows (.ok [call]) .ok fun answers => (Journal.connection answers).perform call := by
  simpa only [Connection.sendAll_singleton] using sendAll [call]

/-- `done r >>= f` has the plan of what follows the check `r`. -/
theorem Follows.done_bind {r : Except Failure β} {plan : β → Except Failure (List Call)}
    {read : Value → Except Failure α}
    {f : (Nat → Except Failure Value) → β → Action (Journal Call) α}
    (h : ∀ x, r = .ok x → Follows (plan x) read fun answers => f answers x) :
    Follows (r >>= plan) read fun answers => done r >>= f answers := by
  cases r with
  | error e => exact fun _ => rfl
  | ok x => exact h x rfl

section

variable {plan : Except Failure (List Call)} {read : Value → Except Failure α}
  {a : (Nat → Except Failure Value) → Action (Journal Call) α}

/-- `a answers = done (.error e)`: an objection is all that comes of an action whose plan it is. -/
theorem Follows.eq_of_error {e : Failure} (h : Follows plan read a) (hplan : plan = .error e)
    (answers : Nat → Except Failure Value) : a answers = done (.error e) := by
  rw [h answers, hplan]
  rfl

/-- Where the plan is `.ok sent`, the calls `sent` are made in turn. -/
theorem Follows.eq_of_ok {sent : List Call} (h : Follows plan read a) (hplan : plan = .ok sent)
    (answers : Nat → Except Failure Value) :
    a answers = (Journal.connection answers).sendAll sent .null >>= fun v => done (read v) := by
  rw [h answers, hplan]
  rfl

/-- `a answers >>= pure ∘ f`: what is made of the result afterwards is made of what was read. -/
theorem Follows.bind_pure (h : Follows plan read a) (f : α → β) :
    Follows plan (fun v => (read v).map f) fun answers => a answers >>= fun x => pure (f x) :=
  fun answers => by simp only [h answers, bind_assoc, done_bind_pure]

end

end Action

end ObjectStore
