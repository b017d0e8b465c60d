import ObjectStore.Connection.Http
import ObjectStore.Rehearsal.Script

/-! # Rehearsals

A state in which operations can be run without a store: connections, sessions and operations answer
from scripts, nobody waits, the clock ticks once per reading, and everything that happens is
written down.

* `Rehearsal.effects`, `Rehearsal.connection`, `Rehearsal.session`, `Rehearsal.operation`: what an
  operation meets in a rehearsal.
* `Cancellation`: when a cancellation is set. -/

namespace ObjectStore

/-- What operations meet and what they have done. -/
structure Rehearsal where
  /-- The least number of a level that the log takes. -/
  threshold : Int
  logs : List LogRecord
  calls : List Call
  requests : List Request
  sleeps : List Number
  /-- How often the clock was read. -/
  readings : Nat
  /-- How often the session was closed. -/
  closed : Nat
  /-- How often the scripted operation was run. -/
  attempts : Nat
  /-- The answers of the scripted connection. -/
  replies : Script (Except Failure Value)
  /-- The answers of the scripted session. -/
  exchanges : Script (Except SessionFault Response)
  /-- The outcomes of the scripted operation. -/
  outcomes : Script (Except Failure Value)
deriving Inhabited

namespace Rehearsal

/-- The state before anything happened, without scripts. -/
def start : Rehearsal := ⟨Level.debug.number, [], [], [], [], 0, 0, 0, [], [], []⟩

/-- The state with nothing written down. -/
def cleared (s : Rehearsal) : Rehearsal :=
  { s with logs := [], calls := [], requests := [], sleeps := [], attempts := 0 }

/-- The clock's first reading, in seconds. -/
def firstReading : Nat := 1000

/-- A reading of the clock, one second after the one before. -/
def reading (s : Rehearsal) : Number :=
  .double (Double.ofRatio false (firstReading + s.readings) 1)

/-- Logging, sleeping, reading the clock and setting the log level in a rehearsal. -/
def effects : Effects Rehearsal where
  log record s :=
    if s.threshold ≤ record.level.number then { s with logs := s.logs ++ [record] } else s
  sleep seconds s := { s with sleeps := s.sleeps ++ [seconds] }
  clock s := (s.reading, { s with readings := s.readings + 1 })
  setLevel level s := { s with threshold := level.number }

/-- A connection that writes its calls down and answers from a script; without one it answers with
an empty mapping. -/
def connection : Connection Rehearsal where
  perform call := fun s =>
    let (reply?, rest) := s.replies.next
    (reply?.getD (.ok (.dict [])), { s with calls := s.calls ++ [call], replies := rest })
  close := id

/-- A session that writes its requests down and answers from a script; without one it answers with
success and an empty body. -/
def session : Session Rehearsal where
  request r := fun s =>
    let (reply?, rest) := s.exchanges.next
    (reply?.getD (.ok ⟨200, ""⟩), { s with requests := s.requests ++ [r], exchanges := rest })
  close s := { s with closed := s.closed + 1 }

/-- An operation that has its outcome from a script; without one it returns null. -/
def operation : Action Rehearsal Value := fun s =>
  let (outcome?, rest) := s.outcomes.next
  (outcome?.getD (.ok .null), { s with attempts := s.attempts + 1, outcomes := rest })

end Rehearsal

/-- When a cancellation is set. -/
inductive Cancellation
  | never
  | start
  /-- During a sleep, counted from one. -/
  | sleep (n : Int)
  /-- During an attempt, counted from one. -/
  | attempt (n : Int)
deriving DecidableEq, Repr

/-- Whether a cancellation is set by what has happened so far. -/
def Cancellation.isSet : Cancellation → Rehearsal → Bool
  | never, _ => false
  | start, _ => true
  | sleep n, s => 1 ≤ n && n ≤ s.sleeps.length
  | attempt n, s => 1 ≤ n && n ≤ s.attempts

end ObjectStore
