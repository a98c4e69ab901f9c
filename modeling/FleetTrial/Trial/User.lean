import FleetTrial.Allocation.Attempt
import FleetTrial.Measurement.Bus
import FleetTrial.Measurement.Forwarder
import FleetTrial.Measurement.Tally
import FleetTrial.Settings.Budget

/-!
# Virtual users

A user makes one attempt after another, with a think time between them, until its share of the
attempts is used up, its time is over or a signal to shut down has come. Its events go through a
bus of its own to the tally that all users share and, if there is a collector, to a connection of
its own. However its work ends, the connection is taken off the bus and closed, and the user gives
it up.

A user looks for signals before an attempt and waits for them during one. It holds at most one
signal at a time; if more have come it has missed some, and then it finds out only by waiting, so
it begins an attempt and drops it before the first request. An attempt whose answer comes together
with a signal takes the answer in, and is dropped where it would wait again.
-/

namespace FleetTrial

/-- A sink of a user's bus. -/
inductive UserSink
  /-- The tally that all users share. -/
  | tally
  /-- The user's own connection to the collector. -/
  | forwarder
  deriving DecidableEq, Repr

/-- What a user is doing. -/
inductive Activity
  | connecting (address : String)
  /-- About to look for signals for the first time. -/
  | starting
  | attempting (attempt : Attempt)
  /-- In an attempt that a missed signal is going to end before its first request. -/
  | dropping
  | thinking (span : Duration)
  | finished
  /-- The collector could not be reached. -/
  | unconnected (error : TrialError)
  | crashed (crash : Crash)
  /-- Cut off from outside. -/
  | aborted

/-- A virtual user. -/
structure User where
  id : Nat
  activity : Activity
  bus : Bus UserSink
  /-- The number of the forwarder's registration on the bus. -/
  registration : Option Nat
  /-- The user's hold on its own connection to the collector, as long as it has one. -/
  handle : Option Forwarder
  /-- The connection that the user has closed and given up, as the collector knows it. -/
  released : Option Forwarder
  /-- Signals to shut down that have come and were not noticed yet. -/
  signals : Nat
  /-- How long the program had run when the user started. -/
  startedAt : Duration
  /-- How many attempts the user is to make, if their number is limited. -/
  target : Option Nat
  /-- How many attempts the user has made. -/
  attempts : Nat

namespace User

/-- A user that has done nothing yet. -/
def create (s : Settings) (id : Nat) : User where
  id := id
  activity :=
    match s.metrics.collector with
    | none => .starting
    | some address => .connecting address
  bus := (Bus.empty.subscribe UserSink.tally).1
  registration := none
  handle := none
  released := none
  signals := 0
  startedAt := .zero
  target := none
  attempts := 0

/-- A user's connection to the collector, whether or not the user still has a hold on it. -/
def forwarder (u : User) : Option Forwarder := u.handle.or u.released

/-- Whether a user does nothing any more. -/
def isOver (u : User) : Bool :=
  match u.activity with
  | .finished | .unconnected _ | .crashed _ | .aborted => true
  | _ => false

/-- Whether a user has crashed on a clock whose Unix time has outgrown its word. -/
def hasBrokenClock (u : User) : Bool :=
  match u.activity with
  | .crashed .timeOverflow => true
  | _ => false

/-- What a user waits for. -/
def wait (s : Settings) (u : User) : Wait :=
  match u.activity with
  | .connecting address => .connection address
  | .starting => .turn
  | .attempting attempt => attempt.wait s
  | .dropping => .turn
  | .thinking span => .pause span
  | _ => .over

/-- Whether a signal, if there is one, may end what a user is doing. -/
def isInterruptible (u : User) : Bool :=
  match u.activity with
  | .attempting _ | .dropping | .thinking _ => true
  | _ => false

/-- Whether a signal may end what a user is doing now. -/
def isInterrupted (u : User) : Bool := u.isInterruptible && 0 < u.signals

/-- Sends a user a signal to shut down. -/
def signal (u : User) : User := { u with signals := u.signals + 1 }

/-- Hands an event to a sink. -/
def accept (sink : UserSink) (e : Event) (kept : Tally × Option Forwarder) :
    (Tally × Option Forwarder) × Bool :=
  match sink, kept with
  | .tally, (tally, forwarder) => ((tally.record e, forwarder), true)
  | .forwarder, (tally, none) => ((tally, none), false)
  | .forwarder, (tally, some forwarder) =>
    match forwarder.send e with
    | .ok after => ((tally, some after), true)
    | .error _ => ((tally, some forwarder), false)

/-- Publishes an event on the user's bus. -/
def publish (tally : Tally) (u : User) (e : Event) : Tally × User :=
  let ((tally, handle), _) := u.bus.publish accept e (tally, u.handle)
  (tally, { u with handle })

/-- Publishes events in order. -/
def publishAll (tally : Tally) (u : User) : List Event → Tally × User
  | [] => (tally, u)
  | e :: rest =>
    let (tally, u) := u.publish tally e
    u.publishAll tally rest

/-- Takes the forwarder off the bus, closes it and gives it up. -/
def tearDown (u : User) : User :=
  { u with
    bus := match u.registration with
      | none => u.bus
      | some id => (u.bus.unsubscribe id).1
    registration := none
    handle := none
    released := (u.handle.map Forwarder.close).or u.released }

/-- Ends a user's work. -/
def finish (u : User) : User := { u.tearDown with activity := .finished }

/-- Whether a user's share of the attempts is used up or its time is over. -/
def isDone (s : Settings) (wall : Duration) (u : User) : Bool :=
  u.target.any (· ≤ u.attempts) ||
    s.extent.duration.any fun limit => limit.nanos ≤ wall.nanos - u.startedAt.nanos

/-- Begins the next attempt, unless the work is over or a signal has come. -/
def proceed (s : Settings) (m : Moment) (u : User) : User :=
  if u.isDone s m.wall then u.finish
  else if u.signals = 0 then { u with activity := .attempting .sampling }
  else if u.signals = 1 then u.finish
  else { u with activity := .dropping }

/-- Starts a user's work: works out its share of the attempts and begins the first one. -/
def start (s : Settings) (m : Moment) (u : User) : User :=
  match s.attemptsOf u.id with
  | .error crash => { u with activity := .crashed crash }
  | .ok target => { u with target, startedAt := m.wall }.proceed s m

/-- Starts a user whose connection to the collector has been opened. -/
def connected (s : Settings) (m : Moment) (u : User) : User :=
  let (bus, id) := u.bus.subscribe .forwarder
  { u with
    bus
    registration := some id
    handle := some (Forwarder.connect s.metrics.space) }.start s m

/-- A time between the bounds of the think time, in milliseconds of a 64-bit word; none if the
bounds are the wrong way round. -/
def thinkTime (s : Settings) (chance : Nat) : Except Crash Duration :=
  let least := (UInt64.ofNat s.crowd.minWait.millis).toNat
  let greatest := (UInt64.ofNat s.crowd.maxWait.millis).toNat
  if greatest < least then .error .emptyRange
  else .ok (.ofMillis (least + chance % (greatest - least + 1)))

/-- Thinks before the next attempt, unless the work is over. -/
def reflect (s : Settings) (m : Moment) (u : User) : User :=
  if u.isDone s m.wall then u.finish
  else
    match thinkTime s m.chance with
    | .error crash => { u with activity := .crashed crash }
    | .ok span => { u with activity := .thinking span }

/-- Counts an attempt by how it ended; one that timed out counts as failed. -/
def count (result : Except TrialError Outcome) (tally : Tally) : Tally :=
  match result with
  | .ok .allocated => tally.countSuccess
  | .ok .unallocated => tally.countSuccess
  | .ok .timedOut => tally.countFailure
  | .error _ => tally.countFailure

/-- Goes on with an attempt. One that would have to wait again is dropped if a signal has come. -/
def advance (s : Settings) (m : Moment) (answer : Answer) (attempt : Attempt) (tally : Tally)
    (u : User) : Tally × User :=
  let (attempt, events) := attempt.resume s m answer
  let (tally, u) := u.publishAll tally events
  match attempt with
  | .over result => (count result tally, { u with attempts := u.attempts + 1 }.reflect s m)
  | .crashed crash => (tally, { u with activity := .crashed crash })
  | attempt =>
    if 0 < u.signals then (tally, u.finish) else (tally, { u with activity := .attempting attempt })

/-- Goes on with the answer to a wait; the tally is the one that all users share. -/
def resume (s : Settings) (m : Moment) (answer : Answer) (tally : Tally) (u : User) :
    Tally × User :=
  match u.activity, answer with
  | .connecting _, .connected => (tally, u.connected s m)
  | .connecting _, .refused e =>
    (tally.countUserFailure, { u with activity := .unconnected e })
  | .starting, .go => (tally, u.start s m)
  | .attempting _, .interrupted => (tally, u.finish)
  | .attempting attempt, answer => u.advance s m answer attempt tally
  | .dropping, _ => (tally, u.finish)
  | .thinking _, .interrupted => (tally, u.finish)
  | .thinking _, .go => (tally, u.proceed s m)
  | _, _ => (tally, u)

/-- Cuts a user off from outside. -/
def abort (u : User) : User := if u.isOver then u else { u with activity := .aborted }

end User

end FleetTrial
