import FleetTrial.Measurement.Forwarder
import FleetTrial.Task.Wait

/-!
# Rehearsals in virtual time

A rehearsal runs waiting tasks against a partner that answers their requests at once or never.
Pauses take place in a virtual time of whole milliseconds that jumps forward whenever no task can
go on. Tasks take turns in the order in which they last went on, but after a jump the leading task
comes first. A rehearsal is watched up to a horizon of virtual time, and is blocked if it is not
over by then; at the very horizon only the leading task goes on, and only once. A task that crashes
on the clock breaks it for all others.
-/

namespace FleetTrial.Rehearsal

/-- Tasks of type `τ` that share a state of type `σ`. -/
structure Ensemble (σ τ : Type) where
  /-- What a task waits for. -/
  wait : σ → τ → Wait
  /-- Whether a signal comes before what a task waits for. -/
  isInterrupted : σ → τ → Bool
  /-- Lets a task go on: the state, and the tasks that it has started. -/
  resume : Moment → Answer → σ → τ → σ × List τ
  /-- Whether there is nothing left to do. -/
  isOver : σ → Bool
  /-- Whether the rehearsal is about this task, and the others only accompany it. -/
  isLeading : τ → Bool
  /-- Whether a task has crashed on the clock. -/
  hasBrokenClock : σ → Bool

/-- Whatever answers the tasks, in a state of type `π`. -/
structure Partner (π : Type) where
  /-- Takes a request: the answer to it, unless there is never going to be one. -/
  call : Request → π → π × Option Answer
  /-- Whether there is a collector at an address that accepts connections. -/
  accepts : String → Bool
  /-- What a task finds around it at a virtual time in milliseconds. -/
  moment : Nat → π → Moment
  /-- Leaves the clock broken. -/
  breakClock : π → π

/-- A task that waits. -/
structure Seat (τ : Type) where
  task : τ
  /-- When the task's pause ends, in virtual milliseconds. -/
  due : Nat
  /-- Whether the task's request is never going to be answered. -/
  hangs : Bool

/-- A rehearsal. -/
structure Stage (σ τ π : Type) where
  state : σ
  partner : π
  /-- The virtual time in milliseconds. -/
  time : Nat
  /-- The waiting tasks, the one that went on last at the end. -/
  seats : List (Seat τ)

/-- Takes the first element with a property out of a list. -/
def takeFirst {α : Type} (p : α → Bool) : List α → Option (α × List α)
  | [] => none
  | a :: rest =>
    if p a then some (a, rest) else (takeFirst p rest).map fun (b, others) => (b, a :: others)

/-- Makes a task wait from a virtual time on. -/
def Seat.take {σ τ : Type} (e : Ensemble σ τ) (state : σ) (time : Nat) (task : τ) : Seat τ :=
  match e.wait state task with
  | .pause span => ⟨task, time + span.millisCovering, false⟩
  | _ => ⟨task, time, false⟩

namespace Stage

variable {σ τ π : Type}

/-- Sets up a rehearsal of some tasks. -/
def start (e : Ensemble σ τ) (partner : π) (state : σ) (tasks : List τ) : Stage σ τ π :=
  ⟨state, partner, 0, tasks.map (Seat.take e state 0)⟩

/-- Whether a task can go on. -/
def isReady (e : Ensemble σ τ) (s : Stage σ τ π) (seat : Seat τ) : Bool :=
  e.isInterrupted s.state seat.task ||
    match e.wait s.state seat.task with
    | .turn => true
    | .connection _ => true
    | .reply _ => !seat.hangs
    | .pause _ => seat.due ≤ s.time
    | .others => false
    | .over => false

/-- Lets a task go on, and makes it and the tasks that it has started wait again. -/
def goOn (e : Ensemble σ τ) (p : Partner π) (task : τ) (answer : Answer) (s : Stage σ τ π) :
    Stage σ τ π :=
  let (state, started) := e.resume (p.moment s.time s.partner) answer s.state task
  { s with
    state
    partner := if e.hasBrokenClock state then p.breakClock s.partner else s.partner
    seats := s.seats ++ (task :: started).map (Seat.take e state s.time) }

/-- The answer to a connection. -/
def connect (p : Partner π) (address : String) : Answer :=
  if p.accepts address then .connected else .refused (Forwarder.refusal address)

/-- Gives a task what it waits for; `s` holds the other tasks. -/
def serve (e : Ensemble σ τ) (p : Partner π) (seat : Seat τ) (s : Stage σ τ π) : Stage σ τ π :=
  if e.isInterrupted s.state seat.task then s.goOn e p seat.task .interrupted
  else
    match e.wait s.state seat.task with
    | .connection address => s.goOn e p seat.task (connect p address)
    | .reply request =>
      match p.call request s.partner with
      | (partner, none) => { s with partner, seats := s.seats ++ [{ seat with hangs := true }] }
      | (partner, some answer) => { s with partner }.goOn e p seat.task answer
    | _ => s.goOn e p seat.task .go

/-- When the next pause ends. -/
def nextDue (e : Ensemble σ τ) (s : Stage σ τ π) : Option Nat :=
  (s.seats.filterMap fun seat =>
    match e.wait s.state seat.task with
    | .pause _ => some seat.due
    | _ => none).min?

/-- Jumps forward to a virtual time, at which the leading task comes first. -/
def jump (e : Ensemble σ τ) (time : Nat) (s : Stage σ τ π) : Stage σ τ π :=
  let (leading, others) := s.seats.partition fun seat => e.isLeading seat.task
  { s with time, seats := leading ++ others }

/-- One step of a rehearsal; none if nothing can happen any more before the horizon. -/
def step (e : Ensemble σ τ) (p : Partner π) (horizon : Nat) (s : Stage σ τ π) :
    Option (Stage σ τ π) :=
  match takeFirst (s.isReady e) s.seats with
  | some (seat, others) => some ({ s with seats := others }.serve e p seat)
  | none =>
    match s.nextDue e with
    | none => none
    | some time => if time < horizon then some (s.jump e time) else none

/-- Runs a rehearsal for at most the given number of steps. -/
def runFor (e : Ensemble σ τ) (p : Partner π) (horizon : Nat) :
    Nat → Stage σ τ π → Stage σ τ π
  | 0, s => s
  | n + 1, s =>
    if e.isOver s.state then s
    else
      match s.step e p horizon with
      | none => s
      | some s => runFor e p horizon n s

/-- Whether a seat is that of the leading task in a pause that ends at the horizon. -/
def endsAt (e : Ensemble σ τ) (horizon : Nat) (s : Stage σ τ π) (seat : Seat τ) : Bool :=
  e.isLeading seat.task && seat.due == horizon &&
    match e.wait s.state seat.task with
    | .pause _ => true
    | _ => false

/-- Comes to the horizon: the leading task goes on once if its pause ends there. -/
def close (e : Ensemble σ τ) (p : Partner π) (horizon : Nat) (s : Stage σ τ π) :
    Stage σ τ π :=
  if e.isOver s.state then s
  else
    match takeFirst (s.endsAt e horizon) s.seats with
    | none => s
    | some (seat, others) => { s with time := horizon, seats := others }.goOn e p seat.task .go

/-- Runs a rehearsal whose partner answers at most `requests` requests of at most `tasks` tasks
until it is over or blocked. Between two requests of a task there are at most a pause and the
jump to its end, and a few steps begin and end each task, so the steps suffice. -/
def run (e : Ensemble σ τ) (p : Partner π) (horizon requests tasks : Nat) (s : Stage σ τ π) :
    Stage σ τ π :=
  (s.runFor e p horizon (8 * (requests + tasks + 8))).close e p horizon

/-- The virtual time that a rehearsal has taken. -/
def slept (s : Stage σ τ π) : Duration := .ofMillis s.time

end Stage

end FleetTrial.Rehearsal
