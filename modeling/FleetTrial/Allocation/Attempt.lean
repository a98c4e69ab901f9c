import FleetTrial.Allocation.Watch
import FleetTrial.Measurement.Event
import FleetTrial.Resource.Manifest

/-!
# Attempts

One attempt asks the fleet for its number of ready replicas, requests an allocation and watches
it until it ends. It measures two things: the number of ready replicas, published as soon as the
request is answered, and the time from the request to the outcome, published with the outcome.
-/

namespace FleetTrial

/-- An attempt at an allocation. -/
inductive Attempt
  /-- The fleet is being fetched. -/
  | sampling
  /-- The allocation is being requested. -/
  | requesting (ready : UInt64) (postedAt : Instant)
  /-- The allocation is being watched. -/
  | watching (watch : Watch)
  | over (result : Except TrialError Outcome)
  | crashed (crash : Crash)

namespace Attempt

/-- What an attempt waits for. -/
def wait (s : Settings) : Attempt → Wait
  | .sampling => .reply (.fetch s.fleetPath)
  | .requesting _ _ => .reply (.create s.allocationsPath (Manifest.allocation s))
  | .watching watch => watch.wait
  | .over _ => .over
  | .crashed _ => .over

/-- An event without a size, stamped with what a clock shows. -/
def stamp (unix : Except Crash Int) (label : String) (value : UInt64) : Except Crash Event :=
  unix.map (⟨label, value, 0, ·⟩)

/-- Ends an attempt whose watch is over, and publishes what it measured. -/
def settle (m : Moment) : Watch → Attempt × List Event
  | .over (.error e) => (.over (.error e), [])
  | .over (.ok measurement) =>
    match stamp m.unixAgain measurement.outcome.label measurement.millis with
    | .error crash => (.crashed crash, [])
    | .ok event => (.over (.ok measurement.outcome), [event])
  | watch => (.watching watch, [])

/-- Takes in the snapshot of the fleet. -/
def sample (m : Moment) (fleet : Snapshot) : Attempt :=
  match fleet.readyReplicas? with
  | none => .over (.error (.missingField Snapshot.readyReplicasPath))
  | some ready => .requesting ready m.now

/-- Takes in the answer to the request for an allocation: publishes the number of ready replicas
and starts to watch. The watch looks at the clock when the number has been published. -/
def posted (s : Settings) (m : Moment) (ready : UInt64) (postedAt : Instant)
    (initial : Snapshot) : Attempt × List Event :=
  match stamp m.unix Event.readyReplicasLabel ready with
  | .error crash => (.crashed crash, [])
  | .ok event =>
    let (attempt, events) := settle m
      (Watch.start s.polling.allocationDeadline s.polling.interval initial postedAt
        m.readings)
    (attempt, event :: events)

/-- Goes on with the answer to a wait: the attempt, and the events that it publishes. -/
def resume (s : Settings) (m : Moment) (answer : Answer) (a : Attempt) : Attempt × List Event :=
  match a, answer with
  | _, .crashed crash => (.crashed crash, [])
  | .sampling, .reply (.ok fleet) => (sample m fleet, [])
  | .sampling, .reply (.error e) => (.over (.error e), [])
  | .requesting ready postedAt, .reply (.ok initial) => posted s m ready postedAt initial
  | .requesting _ _, .reply (.error e) => (.over (.error e), [])
  | .watching watch, answer => settle m (watch.resume m.readings answer)
  | _, _ => (a, [])

end Attempt

end FleetTrial
