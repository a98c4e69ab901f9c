import FleetTrial.Task.Wait
import FleetTrial.Time.Deadline

/-!
# Waiting for a fleet to scale

A fleet is fetched through its handle until it has exactly the wanted number of ready replicas. A
snapshot without a number leaves the last one seen as it is. The deadline is looked at before each
fetch and never between a fetch and its answer, and any two fetches have one pause between them.
-/

namespace FleetTrial

/-- What is known of a fleet between two fetches. -/
structure Census where
  handle : String
  /-- The number of ready replicas to wait for. -/
  target : UInt64
  deadline : Deadline
  /-- The pause between two fetches. -/
  interval : Duration
  /-- The last number of ready replicas that was seen. -/
  lastSeen : Option UInt64
  fetches : Nat
  deriving DecidableEq, Repr

/-- A fleet that is scaling. -/
inductive Readiness
  | pausing (census : Census)
  | fetching (census : Census)
  | over (result : Except TrialError Unit)

namespace Census

/-- Goes on to the next fetch, unless the deadline has passed. -/
def next (now : Instant) (c : Census) : Readiness :=
  if c.deadline.expired now then
    .over (.error (.timedOut (.fleetReady c.target c.lastSeen) (c.deadline.elapsed now)))
  else if 0 < c.fetches && !c.interval.isZero then .pausing c
  else .fetching c

/-- Takes in a snapshot of the fleet. -/
def see (snapshot : Snapshot) (c : Census) : Census :=
  { c with lastSeen := snapshot.readyReplicas?.or c.lastSeen, fetches := c.fetches + 1 }

end Census

namespace Readiness

/-- Starts to wait for `target` ready replicas of the fleet with the given handle. -/
def start (limit : Option Duration) (interval : Duration) (handle : String) (target : UInt64)
    (now : Instant) : Readiness :=
  Census.next now ⟨handle, target, ⟨now, limit⟩, interval, none, 0⟩

/-- What the wait for a fleet waits for. -/
def wait : Readiness → Wait
  | .pausing c => .pause c.interval
  | .fetching c => .reply (.fetch c.handle)
  | .over _ => .over

/-- Goes on with the answer to a wait. -/
def resume (now : Instant) (answer : Answer) (r : Readiness) : Readiness :=
  match r, answer with
  | .pausing c, .go => .fetching c
  | .fetching c, .reply (.ok snapshot) =>
    if (c.see snapshot).lastSeen = some c.target then .over (.ok ())
    else (c.see snapshot).next now
  | .fetching _, .reply (.error e) => .over (.error e)
  | _, _ => r

end Readiness

end FleetTrial
