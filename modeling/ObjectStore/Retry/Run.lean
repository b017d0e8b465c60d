import ObjectStore.Action
import ObjectStore.Number.Fixed
import ObjectStore.Retry.Classify
import ObjectStore.Retry.Policy

/-! # Running with retries

An operation is run until it returns, fails in a way that is not worth another attempt, has used up
its retries, or is cancelled. Between two attempts the cancellation is looked at first, then the
policy's pause is made.

* `RetryPolicy.round`: one attempt, with what follows a failure that is worth another one.
* `RetryPolicy.runFrom`: the run with some retries left and some attempts behind it.
* `RetryPolicy.run`: the whole run. -/

namespace ObjectStore

/-- The name under which retries are logged. -/
def retryLogger : String := "vectorclient.retry.executor"

/-- The number `x` as log lines write it, with some `places`. -/
def Number.fixed (places : Nat) (x : Number) : Except Failure String :=
  match x.toDouble? with
  | some d => .ok (d.fixed places)
  | none => .error .overflow

namespace RetryPolicy

variable {σ α : Type}

/-- The record of the failed attempt `number`; the pause after it is planned unless it `isLast`. -/
def recordAttempt (p : RetryPolicy) (number : Nat) (e : Failure) (kind : ErrorKind)
    (timestamp : Number) (isLast : Bool) : Except Failure Attempt :=
  if isLast then .ok ⟨number, e.message, e.className, kind, timestamp, none⟩
  else (p.delay number).map fun d => ⟨number, e.message, e.className, kind, timestamp, some d⟩

/-- What the log says of the attempt `a` after which another one follows. -/
def retryMessage (description : String) (a : Attempt) (pause : String) : String :=
  "'" ++ description ++ "' attempt " ++ toString a.number ++ " failed (" ++ a.kind.name ++ "): " ++
    a.error ++ "; retrying in " ++ pause ++ "s"

/-- The error of a run whose `attempts` all failed, the last one with `e`. -/
def exhausted (description : String) (attempts : List Attempt) (e : Failure) : Failure :=
  (Failure.exhaustedError (.text description) (.int attempts.length)
    (attempts.map Attempt.details) (.text e.message) (some (.failure e))).causedBy e

/-- The error of a run that was cancelled after the failure `e`. -/
def cancelledBy (description : String) (attempts : List Attempt) (e : Failure) : Failure :=
  (Failure.cancelledError (.text description) (attempts.map Attempt.details)
    (some (.failure e))).causedBy e

/-- What follows a `result`: the run returns it. -/
def succeed (fx : Effects σ) (description : String) (attempts : List Attempt) (result : α) :
    Action σ α := do
  if !attempts.isEmpty then
    fx.note .info retryLogger
      ("'" ++ description ++ "' succeeded after " ++ toString (attempts.length + 1) ++
        " attempts")
  return result

/-- What follows a failure `e` that is not worth another attempt: it is passed on as it is. -/
def passOn (fx : Effects σ) (description : String) (e : Failure) : Action σ α := do
  fx.note .debug retryLogger
    ("'" ++ description ++ "' failed with non-retriable " ++ e.className ++ ": " ++ e.message)
  throw e

/-- What follows a failure `e` that is worth another attempt when no retry is left: the run is
`exhausted`. -/
def giveUp (p : RetryPolicy) (fx : Effects σ) (description : String) (attempts : List Attempt)
    (e : Failure) (kind : ErrorKind) : Action σ α := do
  let time ← fx.readClock
  let record ← Action.done (p.recordAttempt (attempts.length + 1) e kind time true)
  let attempts := attempts ++ [record]
  fx.note .error retryLogger
    ("'" ++ description ++ "' failed after " ++ toString attempts.length ++ " attempts: " ++
      e.message)
  throw (exhausted description attempts e)

/-- What follows a cancellation after `e`: the run is `cancelledBy` it. -/
def stop (fx : Effects σ) (description : String) (attempts : List Attempt) (e : Failure) :
    Action σ α := do
  fx.note .info retryLogger
    ("'" ++ description ++ "' cancelled after " ++ toString attempts.length ++ " attempts")
  throw (cancelledBy description attempts e)

/-- What follows a failure that is worth another attempt when a retry is left: unless the run is
`cancelled`, the planned pause and the `rest` of the run. -/
def tryAgain (p : RetryPolicy) (fx : Effects σ) (cancelled : σ → Bool) (description : String)
    (attempts : List Attempt) (rest : List Attempt → Action σ α) (e : Failure)
    (kind : ErrorKind) : Action σ α := do
  let time ← fx.readClock
  let number := attempts.length + 1
  let record ← Action.done (p.recordAttempt number e kind time false)
  let pause ← Action.done (p.delay number)
  let shown ← Action.done (pause.fixed 2)
  fx.note .warning retryLogger (retryMessage description record shown)
  if cancelled (← get) then stop fx description (attempts ++ [record]) e
  else
    fx.pause pause
    rest (attempts ++ [record])

/-- One attempt at `operation`, with `onTransient` after a failure that is worth another one. -/
def round (fx : Effects σ) (description : String) (operation : Action σ α)
    (attempts : List Attempt) (onTransient : Failure → ErrorKind → Action σ α) : Action σ α := do
  match ← Action.attempt operation with
  | .ok result => succeed fx description attempts result
  | .error e =>
    let kind ← Action.done e.kind
    if kind.retriable then onTransient e kind else passOn fx description e

/-- The run of `operation` with a number of retries left and some attempts behind it. -/
def runFrom (p : RetryPolicy) (fx : Effects σ) (cancelled : σ → Bool) (description : String)
    (operation : Action σ α) : Nat → List Attempt → Action σ α
  | 0, attempts => round fx description operation attempts (p.giveUp fx description attempts)
  | retries + 1, attempts =>
    round fx description operation attempts
      (p.tryAgain fx cancelled description attempts
        (runFrom p fx cancelled description operation retries))

/-- The run of `operation` with the retries of `p`. That it is `cancelled` is a condition on the
state. -/
def run (p : RetryPolicy) (fx : Effects σ) (cancelled : σ → Bool) (description : String)
    (operation : Action σ α) : Action σ α :=
  runFrom p fx cancelled description operation p.maxRetries []

end RetryPolicy

end ObjectStore
