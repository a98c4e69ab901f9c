import FleetTrial.Allocation.Outcome
import FleetTrial.Task.Wait
import FleetTrial.Time.Deadline

/-!
# Watching an allocation

From the answer to the request for an allocation on, the allocation is fetched through its
self-link until a snapshot is terminal or the deadline has passed. A terminal snapshot counts even
if the deadline has passed as well, and an allocation whose deadline has passed times out even if
it lacks the link to go on with. Any two fetches have one pause between them.
-/

namespace FleetTrial

/-- What became of a watched allocation. -/
structure Measurement where
  outcome : Outcome
  /-- Whole milliseconds from the request to the snapshot that ended the watch. -/
  millis : UInt64
  /-- How often the allocation was fetched. -/
  fetches : Nat
  deriving DecidableEq, Repr

/-- What a watch knows between two fetches. -/
structure Poll where
  /-- The deadline, anchored at the request for the allocation. -/
  deadline : Deadline
  /-- The pause between two fetches. -/
  interval : Duration
  /-- The latest snapshot. -/
  latest : Snapshot
  fetches : Nat
  deriving DecidableEq, Repr

/-- A watched allocation. -/
inductive Watch
  | pausing (poll : Poll)
  /-- The allocation is being fetched at this link. -/
  | fetching (poll : Poll) (link : String)
  | over (result : Except TrialError Measurement)

namespace Poll

/-- The outcome that the latest snapshot shows, if it is terminal. -/
def outcome? (p : Poll) : Option Outcome := p.latest.state?.bind Outcome.ofState?

/-- The measurement of an outcome at an instant. -/
def measure (now : Instant) (outcome : Outcome) (p : Poll) : Measurement :=
  ⟨outcome, (p.deadline.elapsed now).wholeMillis, p.fetches⟩

/-- Goes on to the next fetch, for which there has to be a link. -/
def fetch (p : Poll) : Watch :=
  match p.latest.selfLink? with
  | none => .over (.error (.missingField Snapshot.selfLinkPath))
  | some link => .fetching p link

/-- Pauses before the next fetch, unless it is the first one or the pause is empty. -/
def pace (p : Poll) : Watch :=
  if 0 < p.fetches && !p.interval.isZero then .pausing p else p.fetch

/-- Looks at the latest snapshot. A time-out is measured at a second look at the clock, behind the
one that has found the deadline passed. -/
def inspect (clock : Readings) (p : Poll) : Watch :=
  match p.outcome? with
  | some outcome => .over (.ok (p.measure clock.first outcome))
  | none =>
    if p.deadline.expired clock.first then .over (.ok (p.measure clock.second .timedOut))
    else p.pace

end Poll

namespace Watch

/-- Starts to watch an allocation that was requested at `postedAt` and answered with `initial`. -/
def start (limit : Option Duration) (interval : Duration) (initial : Snapshot)
    (postedAt : Instant) (clock : Readings) : Watch :=
  Poll.inspect clock ⟨⟨postedAt, limit⟩, interval, initial, 0⟩

/-- What a watch waits for. -/
def wait : Watch → Wait
  | .pausing p => .pause p.interval
  | .fetching _ link => .reply (.fetch link)
  | .over _ => .over

/-- Goes on with the answer to a wait. -/
def resume (clock : Readings) (answer : Answer) (w : Watch) : Watch :=
  match w, answer with
  | .pausing p, .go => p.fetch
  | .fetching p _, .reply (.ok snapshot) =>
    { p with latest := snapshot, fetches := p.fetches + 1 }.inspect clock
  | .fetching _ _, .reply (.error e) => .over (.error e)
  | _, _ => w

end Watch

end FleetTrial
