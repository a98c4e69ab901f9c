import FleetTrial.Measurement.Hub
import FleetTrial.Rehearsal.ControlPlane
import FleetTrial.Trial.Basic

/-!
# Ensembles

The tasks that can be rehearsed: a watched allocation, a fleet that scales, one attempt whose
events go to a hub, one virtual user whom somebody may signal to shut down, and a whole trial.
-/

namespace FleetTrial.Rehearsal

/-- A watched allocation. -/
def watching : Ensemble Watch Unit where
  wait w _ := w.wait
  isInterrupted _ _ := false
  resume m answer w _ := (w.resume m.now answer, [])
  isOver
    | .over _ => true
    | _ => false
  isLeading _ := true
  hasBrokenClock _ := false

/-- A fleet that scales. -/
def scaling : Ensemble Readiness Unit where
  wait r _ := r.wait
  isInterrupted _ _ := false
  resume m answer r _ := (r.resume m.now answer, [])
  isOver
    | .over _ => true
    | _ => false
  isLeading _ := true
  hasBrokenClock _ := false

/-- One attempt, together with the hub that its events go to. -/
def attempting (settings : Settings) : Ensemble (Attempt × Hub) Unit where
  wait s _ := s.1.wait settings
  isInterrupted _ _ := false
  resume m answer s _ :=
    let (attempt, events) := s.1.resume settings m answer
    ((attempt, s.2.publishAll events), [])
  isOver s :=
    match s.1 with
    | .over _ => true
    | .crashed _ => true
    | _ => false
  isLeading _ := true
  hasBrokenClock _ := false

/-- A user with the tally that its events go to, and the pause before a signal to it. -/
structure Visit where
  tally : Tally
  user : User
  /-- The pause before a signal is sent, until it has been. -/
  signal : Option Duration

/-- A task of a visit: the user, or whoever sends the signal. -/
inductive Visitor
  | user
  | signaller
  deriving DecidableEq, Repr

/-- One user. -/
def visiting (settings : Settings) : Ensemble Visit Visitor where
  wait v
    | .user => v.user.wait settings
    | .signaller =>
      match v.signal with
      | none => .over
      | some span => .pause span
  isInterrupted v
    | .user => v.user.isInterrupted
    | .signaller => false
  resume m answer v
    | .user =>
      let (tally, user) := v.user.resume settings m answer v.tally
      ({ v with tally, user }, [])
    | .signaller => ({ v with user := v.user.signal, signal := none }, [])
  isOver v := v.user.isOver
  isLeading role := role == .user
  hasBrokenClock v := v.user.hasBrokenClock

/-- A whole trial. -/
def trying : Ensemble Trial Role where
  wait := Trial.wait
  isInterrupted t
    | .coordinator => false
    | .user id => t.users[id]?.any User.isInterrupted
  resume m answer t role :=
    let after := t.resume m answer role
    (after, ((List.range after.users.length).drop t.users.length).map .user)
  isOver t :=
    match t.phase with
    | .over _ => true
    | .crashed _ => true
    | _ => false
  isLeading role := role == .coordinator
  hasBrokenClock t := t.users.any User.hasBrokenClock

/-- The milliseconds of a virtual day, for which tasks are rehearsed. -/
def day : Nat := 86400000

/-- Rehearses a watched allocation that was requested at `postedAt`. -/
def rehearseWatch (plane : ControlPlane) (limit : Option Duration) (interval : Duration)
    (initial : Snapshot) (postedAt : Instant) : Stage Watch Unit ControlPlane :=
  (Stage.start watching plane
    (Watch.start limit interval initial postedAt plane.clock.now) [()]).run
    watching (ControlPlane.partner false) day plane.limit 1

/-- Rehearses the wait for a fleet. -/
def rehearseScaling (plane : ControlPlane) (limit : Option Duration) (interval : Duration)
    (handle : String) (target : UInt64) : Stage Readiness Unit ControlPlane :=
  (Stage.start scaling plane
    (Readiness.start limit interval handle target plane.clock.now) [()]).run
    scaling (ControlPlane.partner false) day plane.limit 1

/-- Rehearses one attempt. -/
def rehearseAttempt (settings : Settings) (hub : Hub) (plane : ControlPlane) :
    Stage (Attempt × Hub) Unit ControlPlane :=
  (Stage.start (attempting settings) plane (.sampling, hub) [()]).run
    (attempting settings) (ControlPlane.partner false) day plane.limit 1

/-- Rehearses one user, to whom `before` signals are sent before it runs and one after a pause. -/
def rehearseUser (settings : Settings) (id before : Nat) (after : Option Duration)
    (accepting : Bool) (plane : ControlPlane) : Stage Visit Visitor ControlPlane :=
  let user := { User.create settings id with signals := before }
  (Stage.start (visiting settings) plane ⟨.empty, user, after⟩ [.user, .signaller]).run
    (visiting settings) (ControlPlane.partner accepting) day plane.limit 2

/-- Rehearses a whole trial. -/
def rehearseTrial {π : Type} (p : Partner π) (requests : Nat) (partner : π)
    (settings : Settings) : Stage Trial Role π :=
  (Stage.start trying partner (Trial.create settings) [.coordinator]).run trying p day requests
    (settings.crowd.users + 1)

end FleetTrial.Rehearsal
