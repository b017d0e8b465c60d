import ObjectStore.Failure.Basic
import ObjectStore.Log.Level

/-! # Actions

What an operation does beside returning a result: it changes a state, which stays changed when the
operation fails. The state is left open; `Effects` says what logging, sleeping, reading the clock
and setting the log level mean for it. -/

namespace ObjectStore

/-- An operation on a state that returns a result or fails. -/
abbrev Action (σ : Type) := ExceptT Failure (StateM σ)

namespace Action

variable {σ α β : Type}

/-- The action that does nothing and has the outcome `r`. -/
def done (r : Except Failure α) : Action σ α := fun s => (r, s)

/-- The action that changes the state by `f` and returns nothing. -/
def change (f : σ → σ) : Action σ Unit := fun s => (.ok (), f s)

/-- The outcome of `a` as a result of its own: that `a` fails does not end the whole. -/
def attempt (a : Action σ α) : Action σ (Except Failure α) := fun s =>
  let (r, s) := a s
  (.ok r, s)

/-- `done r s = (r, s)`: a result that is there already leaves the state. -/
@[simp] theorem done_run (r : Except Failure α) (s : σ) : (done r : Action σ α) s = (r, s) := rfl

/-- `change f s = (.ok (), f s)`: a change of the state returns nothing. -/
@[simp] theorem change_run (f : σ → σ) (s : σ) : change f s = (.ok (), f s) := rfl

/-- `attempt a` never fails; what `a` comes to is its result. -/
@[simp] theorem attempt_run (a : Action σ α) (s : σ) : attempt a s = (.ok (a s).1, (a s).2) := rfl

/-- `(pure x) s = (.ok x, s)`: a pure action leaves the state. -/
@[simp] theorem pure_run (x : α) (s : σ) : (pure x : Action σ α) s = (.ok x, s) := rfl

/-- `(throw e) s = (.error e, s)`: a failure leaves the state. -/
@[simp] theorem throw_run (e : Failure) (s : σ) : (throw e : Action σ α) s = (.error e, s) := rfl

/-- `get s = (.ok s, s)`: the state is read and left. -/
@[simp] theorem get_run (s : σ) : (get : Action σ σ) s = (.ok s, s) := rfl

/-- `(a >>= f) s`: an action followed by another: a failure of the first ends both. -/
theorem bind_run (a : Action σ α) (f : α → Action σ β) (s : σ) :
    (a >>= f) s =
      match a s with
      | (.ok x, t) => f x t
      | (.error e, t) => (.error e, t) := by
  show ExceptT.bindCont f (a s).1 (a s).2 = _
  rcases a s with ⟨_ | _, t⟩ <;> rfl

/-- What follows an action that returns `x` is run on `x` in the state that the action leaves. -/
theorem bind_run_ok {a : Action σ α} {f : α → Action σ β} {s t : σ} {x : α}
    (h : a s = (.ok x, t)) : (a >>= f) s = f x t := by
  rw [bind_run, h]

/-- What follows an action that fails is not run: `(a >>= f) s = (.error e, t)`. -/
theorem bind_run_error {a : Action σ α} {f : α → Action σ β} {s t : σ} {e : Failure}
    (h : a s = (.error e, t)) : (a >>= f) s = (.error e, t) := by
  rw [bind_run, h]

end Action

/-- What the effects of operations mean for a state. -/
structure Effects (σ : Type) where
  /-- Writes a record to the log. -/
  log : LogRecord → σ → σ
  /-- Waits for a number of seconds. -/
  sleep : Number → σ → σ
  /-- Reads the clock, in seconds. -/
  clock : σ → Number × σ
  /-- Sets the least level of records that the log takes. -/
  setLevel : Level → σ → σ

namespace Effects

variable {σ : Type}

/-- The action that writes a record to the log. -/
def note (fx : Effects σ) (level : Level) (logger message : String) : Action σ Unit :=
  Action.change (fx.log ⟨level, logger, message⟩)

/-- The action that waits some `seconds`. -/
def pause (fx : Effects σ) (seconds : Number) : Action σ Unit := Action.change (fx.sleep seconds)

/-- The action that reads the clock of `fx`. -/
def readClock (fx : Effects σ) : Action σ Number := fun s =>
  let (t, s) := fx.clock s
  (.ok t, s)

/-- `fx.note level logger message s`: A note is logged, whatever its level, and returns nothing. -/
@[simp] theorem note_run (fx : Effects σ) (level : Level) (logger message : String) (s : σ) :
    fx.note level logger message s = (.ok (), fx.log ⟨level, logger, message⟩ s) := rfl

/-- `fx.pause seconds s`: A pause sleeps for its seconds and returns nothing. -/
@[simp] theorem pause_run (fx : Effects σ) (seconds : Number) (s : σ) :
    fx.pause seconds s = (.ok (), fx.sleep seconds s) := rfl

/-- `fx.readClock s = (.ok (fx.clock s).1, (fx.clock s).2)`: reading the clock never fails. -/
@[simp] theorem readClock_run (fx : Effects σ) (s : σ) :
    fx.readClock s = (.ok (fx.clock s).1, (fx.clock s).2) := rfl

end Effects

end ObjectStore
