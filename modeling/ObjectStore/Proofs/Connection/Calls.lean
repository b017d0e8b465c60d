import Mathlib
import ObjectStore.Proofs.Retry.Journal

/-! # The calls of an action

An action is run against a connection that writes down its calls and answers them from an arbitrary
stream. That each call an action makes is of some sort is shown part by part.

* `Journal.connection`: what an action meets.
* `Action.CallsOnly`: the calls of an action are of some sort, one lemma for each way in which
  actions are put together. -/

namespace ObjectStore

/-- A connection that has its `answers` from a stream, one for each call. -/
def Journal.connection (answers : Nat → Except Failure Value) : Connection (Journal Call) where
  perform call j := (answers j.calls.length, j.add (.call call))
  close j := j

namespace Action

variable {α β : Type} {P : Call → Prop}

/-- That every call that `a` makes is of the sort `P`. -/
def CallsOnly (P : Call → Prop) (a : Action (Journal Call) α) : Prop :=
  ∀ j, ∃ made, (a j).2.calls = j.calls ++ made ∧ ∀ call ∈ made, P call

/-- `a.CallsOnly P` if `a` leaves the journal as it is. -/
theorem CallsOnly.of_silent {a : Action (Journal Call) α} (h : ∀ j, (a j).2 = j) :
    a.CallsOnly P := fun j =>
  ⟨[], by rw [h, List.append_nil], fun _ hcall => nomatch hcall⟩

/-- `(a >>= f).CallsOnly P` if `a` and each `f x` make only calls of the kind `P`. -/
theorem CallsOnly.bind {a : Action (Journal Call) α} {f : α → Action (Journal Call) β}
    (ha : a.CallsOnly P) (hf : ∀ x, (f x).CallsOnly P) : (a >>= f).CallsOnly P := by
  intro j
  obtain ⟨made, hmade, hP⟩ := ha j
  rw [bind_run]
  rcases hrun : a j with ⟨_ | x, k⟩
  · rw [hrun] at hmade
    exact ⟨made, hmade, hP⟩
  · -- The second action starts from the journal that the first one leaves.
    rw [hrun] at hmade
    obtain ⟨more, hmore, hP'⟩ := hf x k
    refine ⟨made ++ more, ?_, fun call hcall => ?_⟩
    · show (f x k).2.calls = _
      rw [hmore, show k.calls = j.calls ++ made from hmade, List.append_assoc]
    · exact (List.mem_append.mp hcall).elim (hP call) (hP' call)

/-- What is returned has no part in which calls are made. -/
theorem CallsOnly.ignoring {a : Action (Journal Call) α} (ha : a.CallsOnly P) :
    (a >>= fun _ => pure ()).CallsOnly P := ha.bind fun _ => .of_silent fun _ => rfl

/-- `(done r >>= f).CallsOnly P`: what comes after a check need only be looked at where the check is
passed. -/
theorem CallsOnly.done_bind {r : Except Failure α} {f : α → Action (Journal Call) β}
    (h : ∀ x, r = .ok x → (f x).CallsOnly P) : (Action.done r >>= f).CallsOnly P := by
  cases r with
  | error e => exact .of_silent fun _ => rfl
  | ok x => exact h x rfl

/-- A call of the kind `P` is one action that makes only such calls. -/
theorem CallsOnly.perform {call : Call} (h : P call) (answers : Nat → Except Failure Value) :
    ((Journal.connection answers).perform call).CallsOnly P := fun j =>
  ⟨[call], by simp [Journal.connection, Journal.calls, Journal.add], by simpa using h⟩

end Action

end ObjectStore
