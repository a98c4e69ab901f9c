import FleetTrial.Error
import FleetTrial.Resource.Request
import FleetTrial.Resource.Snapshot
import FleetTrial.Time.Clock

/-!
# Waiting tasks

A trial is made of tasks that spend their time waiting: for their turn, for an answer of the
control plane, for a connection to the collector or for the end of a pause. A task that goes on
finds a moment around it and an answer to what it waited for, and goes on to its next wait. How
the waits of several tasks interleave is nothing that a task knows of.
-/

namespace FleetTrial

/-- What a task finds around it when it goes on. Whatever it does in between may move the clocks, so
each of its looks at them is told apart. -/
structure Moment where
  /-- The instant on the clock that latencies are measured by. -/
  now : Instant
  /-- That instant at a second look. -/
  again : Instant
  /-- Seconds since the Unix epoch, unless they have outgrown their word. -/
  unix : Except Crash Int
  /-- These seconds at a second look. -/
  unixAgain : Except Crash Int
  /-- How long the program has run. -/
  wall : Duration
  /-- A number that nobody can foresee. -/
  chance : Nat

/-- Both looks at the clock that latencies are measured by. -/
def Moment.readings (m : Moment) : Readings := ⟨m.now, m.again⟩

/-- What a task waits for. -/
inductive Wait
  /-- Nothing: it goes on as soon as its turn comes. -/
  | turn
  /-- A connection to the collector at this address. -/
  | connection (address : String)
  /-- The answer to a request, which is made when the task's turn comes. -/
  | reply (request : Request)
  /-- The end of a pause. -/
  | pause (span : Duration)
  /-- Something that other tasks bring about. -/
  | others
  /-- Nothing more: it is over. -/
  | over
  deriving Repr

/-- What a task gets when it goes on. -/
inductive Answer
  /-- Its turn has come, or its pause has ended. -/
  | go
  | connected
  | refused (error : TrialError)
  | reply (result : Except TrialError Snapshot)
  /-- The request crashed while it was being answered. -/
  | crashed (crash : Crash)
  /-- A signal to shut down has come first. -/
  | interrupted

end FleetTrial
