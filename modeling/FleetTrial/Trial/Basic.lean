import FleetTrial.Measurement.Report
import FleetTrial.Trial.Readiness
import FleetTrial.Trial.User

/-!
# Trials

A trial creates its fleet and waits until it has scaled, starts its users one after another, waits
for all of them, reports and at last deletes the fleet. One coordinator does all of this; the
users work at the same time as it and each other.

Nothing is reported if the fleet cannot be set up. Only a trial with a duration limits how long it
waits for its users: those that are late get a signal to shut down and some time to heed it before
they are cut off, and the trial fails.
-/

namespace FleetTrial

/-- The pause behind the start of each user. -/
def startPause : Duration := .ofMillis 10

/-- How much longer than its duration a trial waits for its users, and how long it waits again
once they have got a signal to shut down. -/
def gracePeriod : Duration := .ofSecs 30

/-- What the coordinator of a trial is doing. -/
inductive Phase
  /-- Nothing yet. -/
  | idle
  /-- The fleet is being created. -/
  | creating
  | scaling (readiness : Readiness)
  /-- A user has just been started. -/
  | launching
  /-- All users have been started. -/
  | joining
  /-- The users have got a signal to shut down. -/
  | stopping
  /-- The fleet is being deleted; the users ended as `waited` says. -/
  | deleting (waited : Except TrialError Unit)
  | over (result : Except TrialError Unit)
  | crashed (crash : Crash)

/-- A trial. -/
structure Trial where
  settings : Settings
  phase : Phase
  /-- The users that have been started, in the order of their numbers. -/
  users : List User
  /-- What all users have counted and measured. -/
  tally : Tally
  /-- How long the program had run when the first user was started. -/
  startedAt : Duration
  /-- The report, once it has been printed. -/
  report : Option String

/-- A task of a trial. -/
inductive Role
  | coordinator
  | user (id : Nat)
  deriving DecidableEq, Hashable, Repr

namespace Trial

/-- A trial that has not begun. -/
def create (s : Settings) : Trial := ⟨s, .idle, [], .empty, .zero, none⟩

/-- Whether all users that have been started do nothing any more. -/
def allOver (t : Trial) : Bool := t.users.all User.isOver

/-- How long a trial waits for its users, if it does not wait for ever. -/
def patience (s : Settings) : Option Duration := s.extent.duration.map (· + gracePeriod)

/-- What the coordinator waits for. -/
def coordinatorWait (t : Trial) : Wait :=
  match t.phase with
  | .idle => .turn
  | .creating => .reply (.create t.settings.fleetsPath (Manifest.fleet t.settings))
  | .scaling readiness => readiness.wait
  | .launching => .pause startPause
  | .joining =>
    if t.allOver then .turn
    else
      match patience t.settings with
      | none => .others
      | some limit => .pause limit
  | .stopping => if t.allOver then .turn else .pause gracePeriod
  | .deleting _ => .reply (.delete t.settings.fleetPath)
  | .over _ => .over
  | .crashed _ => .over

/-- What a task of a trial waits for. -/
def wait (t : Trial) : Role → Wait
  | .coordinator => t.coordinatorWait
  | .user id =>
    match t.users[id]? with
    | none => .over
    | some u => u.wait t.settings

/-- Starts the next user, if there is one more. -/
def launch (t : Trial) : Trial :=
  if t.users.length < t.settings.crowd.users then
    { t with
      phase := .launching
      users := t.users ++ [User.create t.settings t.users.length] }
  else { t with phase := .joining }

/-- Begins the users' part of a trial. -/
def beginUsers (m : Moment) (t : Trial) : Trial := { t with startedAt := m.wall }.launch

/-- Begins to wait for the fleet to scale, or goes on with it. -/
def awaitFleet (m : Moment) (readiness : Readiness) (t : Trial) : Trial :=
  match readiness with
  | .over (.ok ()) => t.beginUsers m
  | .over (.error e) => { t with phase := .over (.error e) }
  | readiness => { t with phase := .scaling readiness }

/-- Begins to wait for the fleet with the given handle to scale. -/
def awaitHandle (m : Moment) (handle : String) (t : Trial) : Trial :=
  t.awaitFleet m
    (Readiness.start t.settings.polling.scaleDeadline t.settings.polling.interval handle
      (UInt64.ofNat t.settings.fleet.replicas) m.now)

/-- The status by which the control plane says that a fleet is there already. -/
def conflictStatus : Nat := 409

/-- Goes on when the fleet has been created, or is there already. A snapshot without a self-link
leaves the fleet's own path as the handle. -/
def created (m : Moment) (answer : Except TrialError Snapshot) (t : Trial) : Trial :=
  match answer with
  | .ok snapshot => t.awaitHandle m (snapshot.selfLink?.getD t.settings.fleetPath)
  | .error (.rejected status body) =>
    if status = conflictStatus then t.awaitHandle m t.settings.fleetPath
    else { t with phase := .over (.error (.rejected status body)) }
  | .error e => { t with phase := .over (.error e) }

/-- Reports, and goes on to delete the fleet if that is wanted. -/
def conclude (m : Moment) (waited : Except TrialError Unit) (t : Trial) : Trial :=
  match Report.ofTrial t.settings ⟨m.wall.nanos - t.startedAt.nanos⟩ t.tally with
  | .error crash => { t with phase := .crashed crash }
  | .ok report =>
    { t with
      report := some report
      phase := if t.settings.fleet.deleteOnExit then .deleting waited else .over waited }

/-- The error of a trial whose users did not finish in time. -/
def overdue (s : Settings) : TrialError :=
  .timedOut .usersFinished ((patience s).getD .zero)

/-- Sends all users that have been started a signal to shut down. -/
def signalUsers (t : Trial) : Trial := { t with users := t.users.map User.signal }

/-- Goes on when all users have finished or the patience has run out. -/
def joined (m : Moment) (t : Trial) : Trial :=
  if t.allOver then t.conclude m (.ok ()) else { t.signalUsers with phase := .stopping }

/-- Goes on when all users have shut down or are out of time; those that are left are cut off. -/
def stopped (m : Moment) (t : Trial) : Trial :=
  { t with users := t.users.map User.abort }.conclude m (.error (overdue t.settings))

/-- Goes on with the answer to what the coordinator waited for. -/
def resumeCoordinator (m : Moment) (answer : Answer) (t : Trial) : Trial :=
  match t.phase, answer with
  | _, .crashed crash => { t with phase := .crashed crash }
  | .idle, .go =>
    if t.settings.fleet.setup then { t with phase := .creating } else t.beginUsers m
  | .creating, .reply result => t.created m result
  | .scaling readiness, answer => t.awaitFleet m (readiness.resume m.now answer)
  | .launching, .go => t.launch
  | .joining, .go => t.joined m
  | .stopping, .go => t.stopped m
  | .deleting waited, .reply (.ok _) => { t with phase := .over waited }
  | .deleting _, .reply (.error e) => { t with phase := .over (.error e) }
  | _, _ => t

/-- Goes on with the answer to what a user waited for. -/
def resumeUser (m : Moment) (answer : Answer) (id : Nat) (t : Trial) : Trial :=
  match t.users[id]? with
  | none => t
  | some u =>
    let (tally, u) := u.resume t.settings m answer t.tally
    { t with tally, users := t.users.set id u }

/-- Goes on with the answer to what a task waited for. -/
def resume (m : Moment) (answer : Answer) (t : Trial) : Role → Trial
  | .coordinator => t.resumeCoordinator m answer
  | .user id => t.resumeUser m answer id

end Trial

end FleetTrial
