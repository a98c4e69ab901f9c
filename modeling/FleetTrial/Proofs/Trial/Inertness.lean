import FleetTrial.Measurement.Hub
import FleetTrial.Proofs.Measurement.Delivery
import FleetTrial.Proofs.Task.Agreement
import FleetTrial.Proofs.Trial.UserMoves

/-!
# Telemetry does not influence the work

An attempt does not know which sinks take its events, or whether any do; and a user that forwards
its events goes on as one without a collector. So two tasks that differ in nothing but their sinks
end alike in any world, ask the same of it, and hand the same events to every sink that they share.
-/

namespace FleetTrial

/-- The same settings without a collector. -/
def Settings.unplugged (s : Settings) : Settings :=
  { s with metrics := { s.metrics with collector := none } }

namespace User

variable {π : Type} {s : Settings} {m : Moment} {u : User} {answer : Answer} {tally : Tally}

/-- A user as it would be without a collector: it starts at once, and has no connection. -/
def unplugged (u : User) : User :=
  { u with
    activity :=
      match u.activity with
      | .connecting _ => .starting
      | activity => activity
    bus := ⟨1, [(0, .tally)]⟩
    registration := none
    handle := none
    released := none }

/-- Whether a user has its connection, if it needs one, and is wired as it should be. -/
def IsUnderWay (u : User) : Prop := u.IsKept ∧ ∀ address, u.activity ≠ .connecting address

/-- Only a user that connects waits for a connection. -/
theorem activity_of_wait_connection {address : String} (hwait : u.wait s = .connection address) :
    u.activity = .connecting address := by
  unfold wait at hwait
  cases hactivity : u.activity with
  | connecting other =>
    rw [hactivity] at hwait
    cases hwait
    rfl
  | attempting attempt =>
    rw [hactivity] at hwait
    cases attempt with
    | watching w => cases w <;> cases hwait
    | _ => cases hwait
  | _ =>
    rw [hactivity] at hwait
    cases hwait

/-- A user that has done nothing yet starts at once without a collector. -/
theorem unplugged_create (s : Settings) (id : Nat) :
    (create s id).unplugged = create s.unplugged id := by
  unfold unplugged create Settings.unplugged
  cases s.metrics.collector <;> rfl

/-- A new user connects to nothing but the collector. -/
theorem collector_of_create {id : Nat} {address : String}
    (hactivity : (create s id).activity = .connecting address) :
    address ∈ s.metrics.collector := by
  unfold create at hactivity
  cases hcollector : s.metrics.collector with
  | none =>
    rw [hcollector] at hactivity
    cases hactivity
  | some other =>
    rw [hcollector] at hactivity
    cases hactivity
    rfl

/-- A user that has its connection does the same without a collector. -/
theorem activity_unplugged (hactivity : ∀ address, u.activity ≠ .connecting address) :
    u.unplugged.activity = u.activity := by
  unfold unplugged
  cases h : u.activity with
  | connecting address => exact absurd h (hactivity address)
  | _ => rfl

/-- Without a collector a user is always ready to publish events. -/
theorem isWired_unplugged (u : User) : u.unplugged.IsWired := .inl ⟨rfl, rfl, rfl, rfl⟩

/-- A user goes on alike before an attempt without a collector. -/
theorem unplugged_proceed (s : Settings) (m : Moment) (u : User) :
    (u.proceed s m).unplugged = u.unplugged.proceed s.unplugged m := by
  have hdone : u.unplugged.isDone s.unplugged m.wall = u.isDone s m.wall := rfl
  have hsignals : u.unplugged.signals = u.signals := rfl
  unfold proceed
  rw [hdone, hsignals]
  split
  · rfl
  split
  · rfl
  split
  · rfl
  · rfl

/-- A user starts alike without a collector. -/
theorem unplugged_start (s : Settings) (m : Moment) (u : User) :
    (u.start s m).unplugged = u.unplugged.start s.unplugged m := by
  have htarget : s.unplugged.attemptsOf u.unplugged.id = s.attemptsOf u.id := rfl
  unfold start
  rw [htarget]
  split
  · rfl
  · exact unplugged_proceed s m _

/-- A user goes on alike behind an attempt without a collector. -/
theorem unplugged_reflect (s : Settings) (m : Moment) (u : User) :
    (u.reflect s m).unplugged = u.unplugged.reflect s.unplugged m := by
  have hdone : u.unplugged.isDone s.unplugged m.wall = u.isDone s m.wall := rfl
  have hspan : thinkTime s.unplugged m.chance = thinkTime s m.chance := rfl
  unfold reflect
  rw [hdone, hspan]
  split
  · rfl
  split
  · rfl
  · rfl

/-- A user goes on alike with an attempt without a collector, and records the same. -/
theorem advance_unplugged (hwired : u.IsWired) (attempt : Attempt) :
    u.unplugged.advance s.unplugged m answer attempt tally =
      ((u.advance s m answer attempt tally).1,
        (u.advance s m answer attempt tally).2.unplugged) := by
  have hresume : attempt.resume s.unplugged m answer = attempt.resume s m answer := rfl
  unfold advance
  rw [hresume]
  generalize attempt.resume s m answer = next
  obtain ⟨attempt', events⟩ := next
  have hnothing : u.unplugged.forwardAll events = (u.forwardAll events).unplugged := rfl
  have hsignals : (u.forwardAll events).unplugged.signals = (u.forwardAll events).signals := rfl
  simp only [hwired.publishAll_eq, u.isWired_unplugged.publishAll_eq, hnothing, hsignals]
  have hreflect :=
    unplugged_reflect s m
      { u.forwardAll events with attempts := (u.forwardAll events).attempts + 1 }
  split
  · exact Prod.ext rfl hreflect.symm
  · rfl
  · split <;> rfl

/-- A user that has its connection goes on alike without a collector, and enters the same in the
tally. -/
theorem resume_unplugged (hunderWay : u.IsUnderWay) :
    u.unplugged.resume s.unplugged m answer tally =
      ((u.resume s m answer tally).1, (u.resume s m answer tally).2.unplugged) := by
  obtain ⟨hkept, hconnected⟩ := hunderWay
  have hsame : u.unplugged.activity = u.activity := activity_unplugged hconnected
  unfold resume
  rw [hsame]
  cases hactivity : u.activity with
  | connecting address => exact absurd hactivity (hconnected address)
  | starting =>
    cases answer with
    | go => exact Prod.ext rfl (unplugged_start s m u).symm
    | _ => rfl
  | attempting attempt =>
    simp only [IsKept, hactivity] at hkept
    cases answer with
    | interrupted => rfl
    | _ => exact advance_unplugged hkept attempt
  | dropping => rfl
  | thinking span =>
    cases answer with
    | go => exact Prod.ext rfl (unplugged_proceed s m u).symm
    | _ => rfl
  | finished => rfl
  | unconnected e => rfl
  | crashed crash => rfl
  | aborted => rfl

/-- A user that opens its connection goes on like one that starts at once. -/
theorem resume_unplugged_of_connecting {address : String}
    (hactivity : u.activity = .connecting address) :
    u.unplugged.resume s.unplugged m .go tally =
      ((u.resume s m .connected tally).1, (u.resume s m .connected tally).2.unplugged) := by
  have hstarting : u.unplugged.activity = .starting := by simp only [unplugged, hactivity]
  have hlinked : (u.linked s).unplugged = u.unplugged := rfl
  simp only [resume, hstarting, hactivity]
  exact Prod.ext rfl ((unplugged_start s m (u.linked s)).trans (by rw [hlinked])).symm

/-- A wired user that finishes is under way. -/
theorem isUnderWay_finish (hwired : u.IsWired) : u.finish.IsUnderWay :=
  ⟨hwired.isTornDown_tearDown, nofun⟩

/-- A wired user is under way whether it begins an attempt or not. -/
theorem isUnderWay_proceed (hwired : u.IsWired) : (u.proceed s m).IsUnderWay := by
  refine ⟨begun_proceed.isKept hwired, fun address => ?_⟩
  have hbegun : Begun s m.wall u (u.proceed s m) := begun_proceed
  revert hbegun
  generalize u.proceed s m = u'
  intro hbegun
  cases hbegun <;> nofun

/-- A wired user is under way once it has started. -/
theorem isUnderWay_start (hwired : u.IsWired) : (u.start s m).IsUnderWay := by
  unfold start
  split
  · exact ⟨trivial, nofun⟩
  · exact isUnderWay_proceed hwired

/-- A wired user is under way behind an attempt. -/
theorem isUnderWay_reflect (hwired : u.IsWired) : (u.reflect s m).IsUnderWay := by
  unfold reflect
  split
  · exact isUnderWay_finish hwired
  split
  · exact ⟨trivial, nofun⟩
  · exact ⟨hwired, nofun⟩

/-- A user that goes on with an attempt is under way. -/
theorem isUnderWay_advance (hwired : u.IsWired) (attempt : Attempt) :
    (u.advance s m answer attempt tally).2.IsUnderWay := by
  unfold advance
  generalize attempt.resume s m answer = next
  obtain ⟨attempt', events⟩ := next
  have hforwarded : (u.forwardAll events).IsWired := hwired.forwardAll events
  simp only [hwired.publishAll_eq]
  split
  · exact isUnderWay_reflect hforwarded
  · exact ⟨trivial, nofun⟩
  · split
    · exact isUnderWay_finish hforwarded
    · exact ⟨hforwarded, nofun⟩

/-- A user that is under way stays so, whatever comes to it. -/
theorem IsUnderWay.resume (hunderWay : u.IsUnderWay) :
    (u.resume s m answer tally).2.IsUnderWay := by
  obtain ⟨hkept, hconnected⟩ := hunderWay
  have hstays : u.IsUnderWay := ⟨hkept, hconnected⟩
  unfold User.resume
  cases hactivity : u.activity with
  | connecting address => exact absurd hactivity (hconnected address)
  | starting =>
    simp only [IsKept, hactivity] at hkept
    cases answer with
    | go => exact isUnderWay_start hkept
    | _ => exact hstays
  | attempting attempt =>
    simp only [IsKept, hactivity] at hkept
    cases answer with
    | interrupted => exact isUnderWay_finish hkept
    | _ => exact isUnderWay_advance hkept attempt
  | dropping =>
    simp only [IsKept, hactivity] at hkept
    exact isUnderWay_finish hkept
  | thinking span =>
    simp only [IsKept, hactivity] at hkept
    cases answer with
    | go => exact isUnderWay_proceed hkept
    | interrupted => exact isUnderWay_finish hkept
    | _ => exact hstays
  | finished | unconnected | crashed | aborted => exact hstays

/-- A user is under way once it has opened its connection. -/
theorem isUnderWay_connected (hkept : u.IsKept) {address : String}
    (hactivity : u.activity = .connecting address) :
    (u.resume s m .connected tally).2.IsUnderWay := by
  simp only [IsKept, hactivity] at hkept
  simp only [resume, hactivity]
  exact isUnderWay_start (.inr (hkept.isLinked (s := s)))

/-- A user without a collector is interrupted as one with it. -/
theorem isInterrupted_unplugged (u : User) : u.unplugged.isInterrupted = u.isInterrupted := by
  unfold isInterrupted isInterruptible unplugged
  cases u.activity <;> rfl

/-- A user without a collector is over as one with it. -/
theorem isOver_unplugged (u : User) : u.unplugged.isOver = u.isOver := by
  unfold isOver unplugged
  cases u.activity <;> rfl

/-- A user without a collector waits for its turn instead of its connection, and otherwise for the
same as one with it. -/
theorem alike_unplugged {w : World π} (s : Settings)
    (haccepts : ∀ address, u.activity = .connecting address → w.accepts address = true) :
    Alike w (u.wait s) (u.unplugged.wait s.unplugged) := by
  unfold wait unplugged
  cases hactivity : u.activity with
  | connecting address => exact .opened (haccepts address hactivity)
  | _ => exact .same _

end User

/-- Whether a hub has become another one by nothing else than that some events were published. -/
def Hub.HasDelivered (events : List Event) (h h' : Hub) : Prop :=
  h'.bus = h.bus ∧ Kept.Delivered h.registered events h.kept h'.kept

/-- Nothing has been published on a hub. -/
theorem Hub.hasDelivered_nil (h : Hub) : h.HasDelivered [] h := ⟨rfl, Kept.delivered_nil _ _⟩

/-- Events are delivered on top of those before. -/
theorem Hub.HasDelivered.publishAll {h h' : Hub} {events : List Event}
    (hdelivered : h.HasDelivered events h') (later : List Event) :
    h.HasDelivered (events ++ later) (h'.publishAll later) := by
  induction later generalizing events h' with
  | nil => exact (List.append_nil events).symm ▸ hdelivered
  | cons e later ih =>
    obtain ⟨hbus, hevents⟩ := hdelivered
    have hregistered : h'.registered = h.registered := congrArg (·.sinks.map (·.2)) hbus
    obtain ⟨hone, _, hsame⟩ := delivered_publish e h'
    rw [hregistered] at hone
    have hnext : h.HasDelivered (events ++ [e]) (h'.publish e).1 :=
      ⟨hsame.trans hbus, hevents.append hone⟩
    rw [List.append_cons]
    exact ih hnext

/-- Attempts one after another. -/
structure Series where
  /-- The attempt that is being made. -/
  attempt : Attempt
  /-- The hub that the events of all of them go to. -/
  hub : Hub
  /-- What the attempts before have come to, in order. -/
  results : List (Except TrialError Outcome)

namespace Series

variable {π : Type} {hub hub' : Hub} {x y : Place Series π}

/-- A series that begins with an attempt. -/
def begin (hub : Hub) : Series := ⟨.sampling, hub, []⟩

/-- Goes on with the attempt that is being made. When it is over the next one begins. -/
def resume (s : Settings) (m : Moment) (answer : Answer) (x : Series) : Series :=
  let (attempt, events) := x.attempt.resume s m answer
  let hub := x.hub.publishAll events
  match attempt.result? with
  | some result => ⟨.sampling, hub, x.results ++ [result]⟩
  | none => ⟨attempt, hub, x.results⟩

/-- A series of attempts as a task that no signal reaches. -/
def task (s : Settings) : Solo Series where
  wait x := x.attempt.wait s
  isInterrupted _ := false
  resume := resume s
  signal x := x

/-- The same series on two hubs, to whose sinks the same events have been handed. -/
def InParallel (hub hub' : Hub) (x y : Series) : Prop :=
  x.attempt = y.attempt ∧ x.results = y.results ∧
    ∃ events, hub.HasDelivered events x.hub ∧ hub'.HasDelivered events y.hub

/-- Series on different hubs go on alike. -/
theorem InParallel.resume {x y : Series} (hparallel : InParallel hub hub' x y) (s : Settings)
    (m : Moment) (answer : Answer) :
    InParallel hub hub' (x.resume s m answer) (y.resume s m answer) := by
  obtain ⟨hattempt, hresults, events, hdelivered, hdelivered'⟩ := hparallel
  unfold Series.resume
  rw [hattempt, hresults]
  generalize y.attempt.resume s m answer = next
  obtain ⟨attempt, later⟩ := next
  have hlater : ∃ events, hub.HasDelivered events (x.hub.publishAll later) ∧
      hub'.HasDelivered events (y.hub.publishAll later) :=
    ⟨_, hdelivered.publishAll later, hdelivered'.publishAll later⟩
  cases hresult : attempt.result? with
  | none => simpa only [hresult] using ⟨rfl, rfl, hlater⟩
  | some result => simpa only [hresult] using ⟨rfl, rfl, hlater⟩

/-- Series on different hubs agree in any world. -/
theorem agreement_task (w : World π) (s : Settings) (hub hub' : Hub) :
    Agreement (task s) (task s) w (InParallel hub hub') := by
  constructor
  case wait =>
    intro x y hparallel
    simp only [task, hparallel.1]
    exact .same _
  case isInterrupted => exact fun _ => rfl
  case signalled => exact fun hparallel => hparallel
  case interrupted => exact fun hparallel _ m => hparallel.resume s m .interrupted
  case resumed => exact fun hparallel _ m answer => hparallel.resume s m answer
  case connected =>
    intro x y hparallel address hwait hturn
    simp only [task, hparallel.1] at hwait hturn
    cases hwait.symm.trans hturn

/-- What two series of attempts have in common that differ in nothing but their sinks. -/
structure SameWork (hub hub' : Hub) (x y : Place Series π) : Prop where
  /-- The attempts before have come to the same. -/
  results : x.state.results = y.state.results
  /-- The attempt that is being made has come as far. -/
  attempt : x.state.attempt = y.state.attempt
  /-- The same requests have been made in the same order. -/
  requests : x.requests = y.requests
  /-- The world is in the same state, its clocks and whatever it keeps of what it was asked. -/
  world : x.world = y.world
  /-- Both wait for an answer that is never going to come, or neither does. -/
  hangs : x.hangs = y.hangs
  /-- The same events have been handed to all sinks of both, and nothing else has happened to
  them. -/
  events : ∃ events, hub.HasDelivered events x.state.hub ∧ hub'.HasDelivered events y.state.hub
  /-- Recorders of a name that are registered as often have noted the same. -/
  recorders : ∀ name, hub.kept.notedBy name = hub'.kept.notedBy name →
    (hub.registered.filterMap Sink.recorder?).count name =
      (hub'.registered.filterMap Sink.recorder?).count name →
    x.state.hub.kept.notedBy name = y.state.hub.kept.notedBy name
  /-- Tallies that are registered as often have recorded the same. -/
  tally : hub.kept.tally = hub'.kept.tally →
    hub.registered.count .tally = hub'.registered.count .tally →
    x.state.hub.kept.tally = y.state.hub.kept.tally
  /-- The same forwarder has sent the same, under whatever number it stands. -/
  forwarders : ∀ index index' : Nat,
    hub.kept.forwarders[index]? = hub'.kept.forwarders[index']? →
    hub.registered.count (.forwarder index) = hub'.registered.count (.forwarder index') →
    x.state.hub.kept.forwarders[index]? = y.state.hub.kept.forwarders[index']?

/-- Series that agree have everything in common but their sinks. -/
theorem sameWork_of_agree (hagree : Place.Agree (InParallel hub hub') x y) :
    SameWork hub hub' x y := by
  obtain ⟨hattempt, hresults, events, hdelivered, hdelivered'⟩ := hagree.state
  constructor
  case results => exact hresults
  case attempt => exact hattempt
  case requests => exact hagree.requests
  case world => exact hagree.world
  case hangs => exact hagree.hangs
  case events => exact ⟨events, hdelivered, hdelivered'⟩
  case recorders =>
    intro name hnotes hcount
    rw [hdelivered.2.notedBy_eq, hdelivered'.2.notedBy_eq, hnotes, hcount]
  case tally =>
    intro htally hcount
    rw [hdelivered.2.tally, hdelivered'.2.tally, htally, Sink.copies, hcount, Sink.copies]
  case forwarders =>
    intro index index' hforwarder hcount
    rw [hdelivered.2.forwarders, hdelivered'.2.forwarders, hforwarder, Sink.copies, hcount,
      Sink.copies]

end Series

namespace User

variable {π : Type} {w : World π} {s : Settings}

/-- A user together with the tally that it shares with others, as a task. -/
def task (s : Settings) : Solo (Tally × User) where
  wait v := v.2.wait s
  isInterrupted v := v.2.isInterrupted
  resume m answer v := v.2.resume s m answer v.1
  signal v := (v.1, v.2.signal)

/-- The same user with and without a collector, which accepts the user's connection. -/
def IsUnplugged (w : World π) (v v' : Tally × User) : Prop :=
  v.2.IsKept ∧ (∀ address, v.2.activity = .connecting address → w.accepts address = true) ∧
    v' = (v.1, v.2.unplugged)

/-- A user that is under way is the same with and without a collector. -/
theorem IsUnderWay.isUnplugged {v : Tally × User} (hunderWay : v.2.IsUnderWay) :
    IsUnplugged w v (v.1, v.2.unplugged) :=
  ⟨hunderWay.1, fun address hactivity => absurd hactivity (hunderWay.2 address), rfl⟩

/-- A user that is under way goes on alike with and without a collector. -/
theorem IsUnderWay.isUnplugged_resume {v : Tally × User} (hunderWay : v.2.IsUnderWay)
    (m : Moment) (answer : Answer) :
    IsUnplugged w ((task s).resume m answer v)
      ((task s.unplugged).resume m answer (v.1, v.2.unplugged)) := by
  simp only [task, resume_unplugged hunderWay]
  exact hunderWay.resume.isUnplugged

/-- A user agrees with itself without a collector, in any world that accepts its connection. -/
theorem agreement_task (w : World π) (s : Settings) :
    Agreement (task s) (task s.unplugged) w (IsUnplugged w) := by
  constructor
  case wait =>
    rintro v _ ⟨_, haccepts, rfl⟩
    exact alike_unplugged s haccepts
  case isInterrupted =>
    rintro v _ ⟨_, _, rfl⟩
    exact (isInterrupted_unplugged v.2).symm
  case signalled =>
    rintro v _ ⟨hkept, haccepts, rfl⟩
    exact ⟨hkept, haccepts, rfl⟩
  case interrupted =>
    rintro v _ ⟨hkept, _, rfl⟩ hinterrupted m
    refine IsUnderWay.isUnplugged_resume ⟨hkept, fun address hactivity => ?_⟩ m .interrupted
    simp only [task, isInterrupted, isInterruptible, hactivity, Bool.false_and,
      reduceCtorEq] at hinterrupted
  case resumed =>
    rintro v _ ⟨hkept, _, rfl⟩ hwait m answer
    refine IsUnderWay.isUnplugged_resume ⟨hkept, fun address hactivity => ?_⟩ m answer
    simp only [task, wait, unplugged, hactivity, reduceCtorEq] at hwait
  case connected =>
    rintro v _ ⟨hkept, _, rfl⟩ address hwait _ m
    have hactivity : v.2.activity = .connecting address := activity_of_wait_connection hwait
    simp only [task, resume_unplugged_of_connecting hactivity]
    exact (isUnderWay_connected hkept hactivity).isUnplugged

/-- What two runs of a user have in common, one with a collector and one without. -/
structure SameWork (x y : Place (Tally × User) π) : Prop where
  /-- Both are over, or neither is. -/
  isOver : x.state.2.isOver = y.state.2.isOver
  /-- If they are over they have ended alike. -/
  ending : x.state.2.isOver = true → x.state.2.activity = y.state.2.activity
  /-- As many attempts have been made. -/
  attempts : x.state.2.attempts = y.state.2.attempts
  /-- The same requests have been made in the same order. -/
  requests : x.requests = y.requests
  /-- The world is in the same state, its clocks and whatever it keeps of what it was asked. -/
  world : x.world = y.world
  /-- Both wait for an answer that is never going to come, or neither does. -/
  hangs : x.hangs = y.hangs
  /-- The tallies have counted and recorded the same. -/
  tally : x.state.1 = y.state.1

/-- Runs that agree have everything in common but the user's connection. -/
theorem sameWork_of_agree {x y : Place (Tally × User) π}
    (hagree : Place.Agree (IsUnplugged w) x y) : SameWork x y := by
  obtain ⟨_, _, hstate⟩ := hagree.state
  constructor
  case isOver => rw [hstate, isOver_unplugged]
  case ending =>
    intro hover
    rw [hstate]
    refine (activity_unplugged fun address hactivity => ?_).symm
    simp only [isOver, hactivity, reduceCtorEq] at hover
  case attempts =>
    rw [hstate]
    rfl
  case requests => exact hagree.requests
  case world => exact hagree.world
  case hangs => exact hagree.hangs
  case tally => rw [hstate]

end User

/-- **Telemetry does not influence the work.** Whatever world they meet and whatever comes next to
them, attempts that follow each other come to the same results, make the same requests and leave the
world in the same state, whatever sinks are registered for their events and whether or not these
fail; and sinks that are registered in both runs get the same events. A user whose collector accepts
its connection works like one without a collector. -/
theorem telemetry_is_inert {π : Type} (w : World π) (s : Settings) (world : π)
    (prompts : List Prompt) :
    (∀ hub hub', Series.SameWork hub hub'
      ((Series.task s).run w prompts (.start (.begin hub) world))
      ((Series.task s).run w prompts (.start (.begin hub') world))) ∧
    ((∀ address ∈ s.metrics.collector, w.accepts address = true) → ∀ tally id, User.SameWork
      ((User.task s).run w prompts (.start (tally, .create s id) world))
      ((User.task s.unplugged).run w prompts (.start (tally, .create s.unplugged id) world))) := by
  constructor
  · intro hub hub'
    have hparallel : Series.InParallel hub hub' (.begin hub) (.begin hub') :=
      ⟨rfl, rfl, [], hub.hasDelivered_nil, hub'.hasDelivered_nil⟩
    exact Series.sameWork_of_agree
      ((Series.agreement_task w s hub hub').agree_run prompts ⟨hparallel, rfl, rfl, rfl⟩)
  · intro haccepts tally id
    have hunplugged : User.IsUnplugged w (tally, .create s id) (tally, .create s.unplugged id) := by
      refine ⟨(User.isSane_create s id).1, fun address hactivity => ?_, ?_⟩
      · exact haccepts address (User.collector_of_create hactivity)
      · rw [User.unplugged_create]
    exact User.sameWork_of_agree
      ((User.agreement_task w s).agree_run prompts ⟨hunplugged, rfl, rfl, rfl⟩)

/-- A world that accepts every connection and grants every allocation at once. Its clock moves by a
nanosecond at every look. -/
def World.granting : World Nat where
  call request time :=
    match request with
    | .create _ _ => (time, some (.reply (.ok (.inState "allocation" "Allocated"))))
    | _ => (time, some (.reply (.ok (.withReady "fleet" 3))))
  accepts _ := true
  rest span time := time + span.nanos
  look time := (time + 2, ⟨⟨time⟩, ⟨time + 1⟩, .ok 0, .ok 0, ⟨time⟩, 0⟩)

/-- Three attempts with a failing recorder in front of the tally come to the same as without sinks,
and a user that makes two attempts does the same with and without a collector. -/
theorem telemetry_is_inert_with_failing_recorder :
    (∀ address ∈ (Settings.forwarding 1 2).metrics.collector,
      World.granting.accepts address = true) ∧
    (∃ hub x y,
      (Series.task (.forwarding 1 2)).run .granting (.replicate 6 .turn)
        (.start (.begin hub) 0) = x ∧
      (Series.task (.forwarding 1 2)).run .granting (.replicate 6 .turn)
        (.start (.begin .empty) 0) = y ∧
      x.state.results = .replicate 3 (.ok .allocated) ∧ x.requests.length = 6 ∧ x.world = 12 ∧
      x.state.hub.kept.notes.length = 6 ∧ Series.SameWork hub .empty x y) ∧
    ∃ x y,
      (User.task (.forwarding 1 2)).run .granting (.replicate 6 .turn)
        (.start (.empty, .create (.forwarding 1 2) 0) 0) = x ∧
      (User.task (Settings.forwarding 1 2).unplugged).run .granting (.replicate 6 .turn)
        (.start (.empty, .create (Settings.forwarding 1 2).unplugged 0) 0) = y ∧
      x.state.2.activity = .finished ∧ x.state.2.attempts = 2 ∧ x.requests.length = 4 ∧
      x.state.2.released.isSome = true ∧ y.state.2.released = none ∧ User.SameWork x y := by
  have haccepts : ∀ address ∈ (Settings.forwarding 1 2).metrics.collector,
      World.granting.accepts address = true := fun _ _ => rfl
  obtain ⟨hattempts, husers⟩ :=
    telemetry_is_inert .granting (.forwarding 1 2) 0 (.replicate 6 .turn)
  refine ⟨haccepts, ?_, ?_⟩
  · exact ⟨((Hub.empty.subscribe (.recorder "log" true)).1.subscribe .tally).1, _, _, rfl, rfl,
      rfl, rfl, rfl, rfl, hattempts _ _⟩
  · exact ⟨_, _, rfl, rfl, rfl, rfl, rfl, rfl, rfl, husers haccepts .empty 0⟩

end FleetTrial
