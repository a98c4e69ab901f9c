import FleetTrial.Measurement.Hub
import FleetTrial.Proofs.Allocation.AttemptMoves
import FleetTrial.Proofs.Polling.Vigil
import FleetTrial.Proofs.Settings.Soundness

/-!
# What an attempt asks for and publishes

An attempt asks for the fleet, requests an allocation and watches it. Where it fails decides what
it has published by then: nothing up to the answer to its request for the allocation, the number of
ready replicas from then on, and the outcome only if the watch has measured one. From that answer on
an attempt does what its watch does, step by step, so the rules that end a watch are the rules that
end the attempt.

The sinks of the hub take their time, and the clock goes on meanwhile. So each look at the clock has
its own reading: the number of ready replicas is stamped before it is published, the snapshot is
looked at behind that, a time-out is measured behind the look that found it, and the outcome is
stamped last.
-/

namespace FleetTrial

open Attempt

/-- An attempt with all that it meets. -/
structure Venture where
  settings : Settings
  /-- The hub that its events go to. -/
  hub : Hub
  /-- The replies to its requests in order; none to a request that is never answered. -/
  reply : Nat → Option (Except TrialError Snapshot)
  /-- The moment at which it goes on when so many requests have been answered. -/
  moment : Nat → Moment
  /-- The Unix times of each moment, one for each look at the clock. -/
  unix : Nat → Int × Int
  shows_moment : ∀ k, (moment k).Shows (unix k)

namespace Venture

/-- How far a venture has come. -/
structure Point where
  attempt : Attempt
  hub : Hub
  /-- The requests that were answered, in order. -/
  requests : List Request
  /-- The events that were published, in order. -/
  events : List Event

variable {t : Venture} {x : Point} {ready : UInt64} {initial : Snapshot} {n : Nat}

/-- Goes on with an answer when some requests have been answered. -/
def goOn (t : Venture) (requests : List Request) (answer : Answer) (x : Point) : Point :=
  let (attempt, events) := x.attempt.resume t.settings (t.moment requests.length) answer
  ⟨attempt, x.hub.publishAll events, requests, x.events ++ events⟩

/-- Gives an attempt its next answer. A request that is never answered leaves everything as it is,
and so does an attempt that is over. -/
def step (t : Venture) (x : Point) : Point :=
  match x.attempt.wait t.settings with
  | .pause _ => t.goOn x.requests .go x
  | .reply request =>
    match t.reply x.requests.length with
    | none => x
    | some result => t.goOn (x.requests ++ [request]) (.reply result) x
  | _ => x

/-- How far a venture has come after so many steps. -/
def after (t : Venture) : Nat → Point
  | 0 => ⟨.sampling, t.hub, [], []⟩
  | n + 1 => t.step (t.after n)

/-- The request for the fleet. -/
def sampling (t : Venture) : Request := .fetch t.settings.fleetPath

/-- The request for an allocation. -/
def posting (t : Venture) : Request :=
  .create t.settings.allocationsPath (Manifest.allocation t.settings)

/-- Whether the fleet is answered with a number of ready replicas. -/
def Samples (t : Venture) (ready : UInt64) : Prop :=
  ∃ fleet, t.reply 0 = some (.ok fleet) ∧ fleet.readyReplicas? = some ready

/-- Whether the request for an allocation is made, with so many replicas ready, and answered with a
snapshot. -/
def Posts (t : Venture) (ready : UInt64) (initial : Snapshot) : Prop :=
  t.Samples ready ∧ t.reply 1 = some (.ok initial)

/-- The allocation that is watched, with all that the watch meets: the clock of the watch starts
when the fleet has been answered, just before the allocation is requested, and it is read at each
look at a snapshot. -/
def vigil (t : Venture) (initial : Snapshot) : Vigil where
  limit := t.settings.polling.allocationDeadline
  interval := t.settings.polling.interval
  initial := initial
  postedAt := (t.moment 1).now
  course := ⟨fun k => t.reply (k + 2), fun k => (t.moment (k + 2)).now⟩

/-- When an outcome is measured that shows at the look behind `k` more answers: a time-out behind
the look, any other outcome at the look itself. -/
def measuredAt (t : Venture) (outcome : Outcome) (k : Nat) : Instant :=
  match outcome with
  | .timedOut => (t.moment (k + 2)).again
  | _ => (t.moment (k + 2)).now

/-- The whole milliseconds from just before the request for an allocation to the measurement of an
outcome, at most the largest 64-bit word. -/
def millis (t : Venture) (outcome : Outcome) (k : Nat) : UInt64 :=
  let elapsed := (t.measuredAt outcome k).nanos - (t.moment 1).now.nanos
  UInt64.ofNat (min (elapsed / 1000000) Text.maxWord64)

/-- How an attempt ends: the requests that it makes, the events that it publishes, and its
result. -/
inductive EndsWith (t : Venture) : List Request → List Event → Except TrialError Outcome → Prop
  | unsampled {e : TrialError} (hreply : t.reply 0 = some (.error e)) :
    EndsWith t [t.sampling] [] (.error e)
  | uncounted {fleet : Snapshot} (hreply : t.reply 0 = some (.ok fleet))
    (hready : fleet.readyReplicas? = none) :
    EndsWith t [t.sampling] [] (.error (.missingField "status.readyReplicas"))
  | rejected {ready : UInt64} {e : TrialError} (hsamples : t.Samples ready)
    (hreply : t.reply 1 = some (.error e)) :
    EndsWith t [t.sampling, t.posting] [] (.error e)
  | failed {ready : UInt64} {initial : Snapshot} {k : Nat} {fetched : List Request}
    {e : TrialError} (hposts : t.Posts ready initial)
    (hlinks : (t.vigil initial).FollowsLinks fetched)
    (hfirst : (t.vigil initial).EndsFirstAt k fetched.length (.error e)) :
    EndsWith t (t.sampling :: t.posting :: fetched)
      [⟨"ReadyReplicas", ready, 0, (t.unix 2).1⟩] (.error e)
  | ended {ready : UInt64} {initial : Snapshot} {k : Nat} {fetched : List Request}
    {measurement : Measurement} (hposts : t.Posts ready initial)
    (hlinks : (t.vigil initial).FollowsLinks fetched)
    (hfirst : (t.vigil initial).EndsFirstAt k fetched.length (.ok measurement)) :
    EndsWith t (t.sampling :: t.posting :: fetched)
      [⟨"ReadyReplicas", ready, 0, (t.unix 2).1⟩,
        ⟨measurement.outcome.label, t.millis measurement.outcome k, 0, (t.unix (k + 2)).2⟩]
      (.ok measurement.outcome)

/-- Where an attempt stands: what it waits for, which requests were answered, and what it has
published. -/
inductive Stands (t : Venture) (x : Point) : Prop
  | sampling (hwait : x.attempt.wait t.settings = .reply t.sampling)
    (hrequests : x.requests = []) (hevents : x.events = [])
  | posting {ready : UInt64} (hsamples : t.Samples ready)
    (hwait : x.attempt.wait t.settings = .reply t.posting)
    (hrequests : x.requests = [t.sampling]) (hevents : x.events = [])
  | watching {ready : UInt64} {initial : Snapshot} {fetched : List Request}
    (hposts : t.Posts ready initial) (hlinks : (t.vigil initial).FollowsLinks fetched)
    {watch : Watch} (hattempt : x.attempt = .watching watch) (hwait : watch.wait ≠ .over)
    (hrequests : x.requests = t.sampling :: t.posting :: fetched)
    (hevents : x.events = [⟨"ReadyReplicas", ready, 0, (t.unix 2).1⟩])
  | ended {result : Except TrialError Outcome} (hattempt : x.attempt = .over result)
    (hends : t.EndsWith x.requests x.events result)

/-- What goes on publishes its events on the hub and does nothing else to it. -/
theorem goOn_eq (requests : List Request) (answer : Answer) :
    t.goOn requests answer x =
      let behind := x.attempt.resume t.settings (t.moment requests.length) answer
      ⟨behind.1, x.hub.publishAll behind.2, requests, x.events ++ behind.2⟩ := rfl

/-- An attempt that is over stands still. -/
theorem step_of_over (hwait : x.attempt.wait t.settings = .over) : t.step x = x := by
  simp only [step, hwait]

/-- A request that is answered. -/
theorem step_of_reply {request : Request} {result : Except TrialError Snapshot}
    (hwait : x.attempt.wait t.settings = .reply request)
    (hreply : t.reply x.requests.length = some result) :
    t.step x = t.goOn (x.requests ++ [request]) (.reply result) x := by
  simp only [step, hwait, hreply]

/-- A request that is never answered. -/
theorem step_of_unanswered {request : Request} (hwait : x.attempt.wait t.settings = .reply request)
    (hreply : t.reply x.requests.length = none) : t.step x = x := by
  simp only [step, hwait, hreply]

/-- A pause that ends. -/
theorem step_of_pause {span : Duration} (hwait : x.attempt.wait t.settings = .pause span) :
    t.step x = t.goOn x.requests .go x := by
  simp only [step, hwait]

/-- A watch that has ended at the look behind `k` more answers, as an attempt measures it. -/
def timed (t : Venture) (k : Nat) : Watch → Watch
  | .over (.ok measurement) =>
    .over (.ok { measurement with millis := t.millis measurement.outcome k })
  | watch => watch

/-- Where an attempt stands whose watch has come so far. -/
def behind (t : Venture) (ready : UInt64) (y : Passage Watch) : Point :=
  let settled := settle (t.moment (y.fetched.length + 2)) (t.timed y.fetched.length y.state)
  let events := gauge (t.unix 2).1 ready :: settled.2
  ⟨settled.1, t.hub.publishAll events, t.sampling :: t.posting :: y.fetched, events⟩

/-- No state of a snapshot stands for a time-out. -/
theorem outcome?_ne_timedOut (p : Poll) : p.outcome? ≠ some .timedOut := by
  intro houtcome
  obtain ⟨state, _, hstate⟩ := Option.bind_eq_some_iff.mp houtcome
  unfold Outcome.ofState? at hstate
  split at hstate
  · cases hstate
  split at hstate <;> cases hstate

/-- What goes on to its next fetch has measured nothing. -/
theorem timed_fetch (k : Nat) (p : Poll) : t.timed k p.fetch = p.fetch := by
  unfold Poll.fetch
  split <;> rfl

/-- A look of an attempt at a snapshot is one of its watch, but for when a time-out is measured. -/
theorem inspect_eq_timed {p : Poll}
    (hdeadline : p.deadline = ⟨(t.moment 1).now, t.settings.polling.allocationDeadline⟩) (k : Nat) :
    p.inspect (t.moment (k + 2)).readings = t.timed k (p.inspect (t.moment (k + 2)).now) := by
  cases houtcome : p.outcome? with
  | some outcome =>
    have hmeasuredAt : t.measuredAt outcome k = (t.moment (k + 2)).now := by
      cases outcome with
      | allocated => rfl
      | unallocated => rfl
      | timedOut => exact absurd houtcome (outcome?_ne_timedOut p)
    simp only [Poll.inspect, houtcome, timed, millis, hmeasuredAt, Poll.measure, hdeadline]
    rfl
  | none =>
    have hfirst : (t.moment (k + 2)).readings.first = (t.moment (k + 2)).now := rfl
    simp only [Poll.inspect, houtcome]
    rw [hfirst]
    split
    · simp only [timed, millis, Poll.measure, hdeadline]
      rfl
    · unfold Poll.pace
      split
      · rfl
      · rw [timed_fetch]

/-- An attempt whose watch has measured an outcome publishes it and ends with it. -/
theorem behind_measured {measurement : Measurement} {fetched : List Request} {pauses : Nat} :
    t.behind ready ⟨.over (.ok measurement), fetched, pauses⟩ =
      let events := [gauge (t.unix 2).1 ready,
        verdict (t.unix (fetched.length + 2)).2 measurement.outcome
          (t.millis measurement.outcome fetched.length)]
      ⟨.over (.ok measurement.outcome), t.hub.publishAll events,
        t.sampling :: t.posting :: fetched, events⟩ := by
  simp only [behind, timed, settle, stamp, (t.shows_moment _).2, Except.map]
  rfl

/-- An attempt goes on from the watch that it was left with. -/
theorem goOn_behind {y y' : Passage Watch} {requests : List Request} {answer : Answer}
    (hrequests : requests = t.sampling :: t.posting :: y'.fetched)
    (hopen : settle (t.moment (y.fetched.length + 2)) (t.timed y.fetched.length y.state) =
      (.watching y.state, []))
    (hresume : (Attempt.watching y.state).resume t.settings (t.moment (y'.fetched.length + 2))
      answer = settle (t.moment (y'.fetched.length + 2)) (t.timed y'.fetched.length y'.state)) :
    t.goOn requests answer (t.behind ready y) = t.behind ready y' := by
  have hlength : requests.length = y'.fetched.length + 2 := congrArg List.length hrequests
  rw [goOn_eq, hlength, hrequests]
  simp only [behind, hopen, hresume]
  rfl

/-- The end of a pause takes an attempt on as it takes its watch. -/
theorem resume_pausing (k : Nat) (p : Poll) :
    (Attempt.watching (.pausing p)).resume t.settings (t.moment (k + 2)) .go =
      settle (t.moment (k + 2)) (t.timed k p.fetch) := by
  rw [timed_fetch]
  rfl

/-- The answer to a fetch takes an attempt on as it takes its watch. -/
theorem resume_fetching {p : Poll}
    (hdeadline : p.deadline = ⟨(t.moment 1).now, t.settings.polling.allocationDeadline⟩) (k : Nat)
    (link : String) (result : Except TrialError Snapshot) :
    (Attempt.watching (.fetching p link)).resume t.settings (t.moment (k + 2)) (.reply result) =
      settle (t.moment (k + 2)) (t.timed k
        ((Watch.fetching p link).resume (t.moment (k + 2)).now (.reply result))) := by
  cases result with
  | error e => rfl
  | ok snapshot =>
    have hinspect := t.inspect_eq_timed
      (p := { p with latest := snapshot, fetches := p.fetches + 1 }) hdeadline k
    simp only [Watch.resume, ← hinspect]
    rfl

/-- From the answer to its request on, an attempt does what its watch does. -/
theorem step_behind (n : Nat) :
    t.step (t.behind ready ((t.vigil initial).after n)) =
      t.behind ready ((t.vigil initial).after (n + 1)) := by
  rw [Vigil.after_succ]
  obtain ⟨_, k, hstage, _⟩ := (t.vigil initial).exists_stage n
  generalize (t.vigil initial).after n = y at hstage ⊢
  obtain ⟨w, fetched, pauses⟩ := y
  cases hstage with
  | @pausing s _ hstate _ =>
    obtain rfl : w = .pausing ((t.vigil initial).poll k s) := hstate
    rw [Passage.step_of_pause rfl, step_of_pause rfl]
    exact goOn_behind rfl rfl (resume_pausing fetched.length _)
  | @fetching s link _ _ hstate _ =>
    obtain rfl : w = .fetching ((t.vigil initial).poll k s) link := hstate
    cases hreply : t.reply (fetched.length + 2) with
    | none => rw [Passage.step_of_unanswered rfl hreply, step_of_unanswered rfl hreply]
    | some result =>
      rw [Passage.step_of_reply rfl hreply, step_of_reply rfl hreply]
      apply goOn_behind
      · rfl
      · rfl
      · have hlength : (fetched ++ [Request.fetch link]).length = fetched.length + 1 :=
          List.length_append
        rw [hlength]
        exact resume_fetching rfl (fetched.length + 1) link result
  | @ended r _ hstate =>
    obtain rfl : w = .over r := hstate
    rw [Passage.step_of_over rfl, step_of_over]
    cases r with
    | error e => rfl
    | ok measurement =>
      rw [behind_measured]
      rfl

/-- The first answer. -/
theorem after_one {result : Except TrialError Snapshot} (hreply : t.reply 0 = some result) :
    t.after 1 = t.goOn [t.sampling] (.reply result) ⟨.sampling, t.hub, [], []⟩ :=
  step_of_reply rfl hreply

/-- A fleet that is answered without its ready replicas ends the attempt. -/
theorem after_one_of_uncounted {fleet : Snapshot} (hreply : t.reply 0 = some (.ok fleet))
    (hready : fleet.readyReplicas? = none) :
    t.after 1 =
      ⟨.over (.error (.missingField "status.readyReplicas")), t.hub, [t.sampling], []⟩ := by
  rw [after_one hreply, goOn_eq]
  simp only [resume, sample, hready]
  rfl

/-- A fleet that is answered with its ready replicas has the attempt request an allocation. -/
theorem after_one_of_samples (hsamples : t.Samples ready) :
    t.after 1 = ⟨.requesting ready (t.moment 1).now, t.hub, [t.sampling], []⟩ := by
  obtain ⟨fleet, hreply, hready⟩ := hsamples
  rw [after_one hreply, goOn_eq]
  simp only [resume, sample, hready]
  rfl

/-- The second answer. -/
theorem after_two {result : Except TrialError Snapshot} (hsamples : t.Samples ready)
    (hreply : t.reply 1 = some result) :
    t.after 2 = t.goOn [t.sampling, t.posting] (.reply result)
      ⟨.requesting ready (t.moment 1).now, t.hub, [t.sampling], []⟩ := by
  have hstep : t.after 2 = t.step (t.after 1) := rfl
  rw [hstep, after_one_of_samples hsamples]
  exact step_of_reply rfl hreply

/-- The answer to its request has an attempt publish the number of ready replicas and stand where
the first look takes its watch. -/
theorem resume_requesting (ready : UInt64) (initial : Snapshot) :
    (Attempt.requesting ready (t.moment 1).now).resume t.settings (t.moment 2)
      (.reply (.ok initial)) =
        let settled := settle (t.moment 2) (t.timed 0 (t.vigil initial).start)
        (settled.1, gauge (t.unix 2).1 ready :: settled.2) := by
  have hinspect := t.inspect_eq_timed
    (p := ⟨⟨(t.moment 1).now, _⟩, t.settings.polling.interval, initial, 0⟩) rfl 0
  simp only [resume, posted, stamp, (t.shows_moment 2).1, Except.map, Watch.start, hinspect]
  rfl

/-- From the answer to its request on, an attempt stands where its watch has taken it. -/
theorem after_eq_behind (hposts : t.Posts ready initial) (n : Nat) :
    t.after (n + 2) = t.behind ready ((t.vigil initial).after n) := by
  induction n with
  | zero =>
    have hresume := t.resume_requesting ready initial
    rw [after_two hposts.1 hposts.2, goOn_eq, List.length_cons, List.length_singleton, hresume]
    rfl
  | succ n ih =>
    have hstep : t.after (n + 1 + 2) = t.step (t.after (n + 2)) := rfl
    rw [hstep, ih]
    exact step_behind n

/-- Where an attempt stands after some of its steps. -/
inductive Stage (t : Venture) : Point → Prop
  | sampling : Stage t ⟨.sampling, t.hub, [], []⟩
  | posting {ready : UInt64} (hsamples : t.Samples ready) :
    Stage t ⟨.requesting ready (t.moment 1).now, t.hub, [t.sampling], []⟩
  | failed {requests : List Request} {e : TrialError} (hends : t.EndsWith requests [] (.error e)) :
    Stage t ⟨.over (.error e), t.hub, requests, []⟩
  | behind {ready : UInt64} {initial : Snapshot} (hposts : t.Posts ready initial) (n : Nat) :
    Stage t (t.behind ready ((t.vigil initial).after n))

/-- What becomes of an attempt when the fleet is answered. -/
theorem stage_of_sampled {result : Except TrialError Snapshot} (hreply : t.reply 0 = some result) :
    t.Stage (t.after 1) := by
  cases result with
  | error e =>
    rw [after_one hreply]
    exact .failed (.unsampled hreply)
  | ok fleet =>
    cases hready : fleet.readyReplicas? with
    | some ready =>
      have hsamples : t.Samples ready := ⟨fleet, hreply, hready⟩
      rw [after_one_of_samples hsamples]
      exact .posting hsamples
    | none =>
      rw [after_one_of_uncounted hreply hready]
      exact .failed (.uncounted hreply hready)

/-- What becomes of an attempt when its request is answered. -/
theorem stage_of_posted {result : Except TrialError Snapshot} (hsamples : t.Samples ready)
    (hreply : t.reply 1 = some result) : t.Stage (t.after 2) := by
  cases result with
  | error e =>
    rw [after_two hsamples hreply]
    exact .failed (.rejected hsamples hreply)
  | ok initial =>
    rw [after_eq_behind ⟨hsamples, hreply⟩ 0]
    exact .behind ⟨hsamples, hreply⟩ 0

/-- A step takes an attempt from stage to stage. -/
theorem Stage.step (hstage : t.Stage x) : t.Stage (t.step x) := by
  cases hstage with
  | sampling =>
    cases hreply : t.reply 0 with
    | none =>
      have hwait : Attempt.sampling.wait t.settings = .reply t.sampling := rfl
      rw [step_of_unanswered hwait hreply]
      exact .sampling
    | some result => exact stage_of_sampled hreply
  | @posting ready hsamples =>
    cases hreply : t.reply 1 with
    | none =>
      have hwait : (Attempt.requesting ready (t.moment 1).now).wait t.settings =
          .reply t.posting := rfl
      rw [step_of_unanswered hwait hreply]
      exact .posting hsamples
    | some result =>
      rw [← after_one_of_samples hsamples]
      exact stage_of_posted hsamples hreply
  | failed hends =>
    rw [step_of_over rfl]
    exact .failed hends
  | behind hposts n =>
    rw [step_behind]
    exact .behind hposts (n + 1)

/-- An attempt stands at a stage after any number of steps. -/
theorem stage_after (t : Venture) (n : Nat) : t.Stage (t.after n) := by
  induction n with
  | zero => exact .sampling
  | succ n ih => exact ih.step

/-- All that an attempt does to its hub is to publish its events there. -/
theorem Stage.hub_eq (hstage : t.Stage x) : x.hub = t.hub.publishAll x.events := by
  cases hstage <;> rfl

/-- An attempt whose watch is over has ended as its watch has. -/
theorem exists_endsWith_of_over {y : Passage Watch} {r : Except TrialError Measurement} {k : Nat}
    (hposts : t.Posts ready initial) (hlinks : (t.vigil initial).FollowsLinks y.fetched)
    (hfirst : (t.vigil initial).EndsFirstAt k y.fetched.length r) (hover : y.state = .over r) :
    ∃ result, (t.behind ready y).attempt = .over result ∧
      t.EndsWith (t.behind ready y).requests (t.behind ready y).events result := by
  obtain ⟨w, fetched, pauses⟩ := y
  obtain rfl : w = .over r := hover
  cases r with
  | error e => exact ⟨.error e, rfl, .failed hposts hlinks hfirst⟩
  | ok measurement =>
    have hmade : fetched.length = k := hfirst.1.measured.1
    rw [behind_measured, hmade]
    exact ⟨.ok measurement.outcome, rfl, .ended hposts hlinks hfirst⟩

/-- What an attempt has asked for and published at a stage. -/
theorem Stage.stands (hstage : t.Stage x) : t.Stands x := by
  cases hstage with
  | sampling => exact .sampling rfl rfl rfl
  | posting hsamples => exact .posting hsamples rfl rfl rfl
  | failed hends => exact .ended rfl hends
  | @behind ready initial hposts n =>
    have hlinks := ((t.vigil initial).exists_stage n).1
    have hwatching {w : Watch} (hstate : ((t.vigil initial).after n).state = w)
        (hopen : ∀ m j, settle m (t.timed j w) = (.watching w, [])) (hwait : w.wait ≠ .over) :
        t.Stands (t.behind ready ((t.vigil initial).after n)) := by
      have hattempt : (t.behind ready ((t.vigil initial).after n)).attempt = .watching w := by
        simp only [Venture.behind, hstate, hopen]
      refine .watching hposts hlinks hattempt hwait rfl ?_
      simp only [Venture.behind, hstate, hopen]
      rfl
    cases hstate : ((t.vigil initial).after n).state with
    | pausing p => exact hwatching hstate (fun _ _ => rfl) nofun
    | fetching p link => exact hwatching hstate (fun _ _ => rfl) nofun
    | «over» r =>
      obtain ⟨k, hfirst⟩ := Vigil.endsFirstAt_of_over hstate
      obtain ⟨result, hattempt, hends⟩ := exists_endsWith_of_over hposts hlinks hfirst hstate
      exact .ended hattempt hends

/-- A watch that ends has its attempt end after the fetches that the watch makes. -/
theorem exists_behind_of_endsFirstAt {k : Nat} {fetched : List Request}
    {r : Except TrialError Measurement} (hposts : t.Posts ready initial)
    (hlinks : (t.vigil initial).FollowsLinks fetched)
    (hfirst : (t.vigil initial).EndsFirstAt k fetched.length r) :
    ∃ n pauses, t.after n = t.behind ready ⟨.over r, fetched, pauses⟩ := by
  obtain ⟨n, hover, hlength⟩ := Vigil.exists_over_of_endsFirstAt hfirst
  have hprefix := ((t.vigil initial).exists_stage n).1.isPrefix hlinks (Nat.le_of_eq hlength)
  have hfetched : ((t.vigil initial).after n).fetched = fetched := hprefix.eq_of_length hlength
  refine ⟨n + 2, ((t.vigil initial).after n).pauses, ?_⟩
  rw [after_eq_behind hposts n, ← hover, ← hfetched]

/-- An attempt comes to every end that it can come to. -/
theorem exists_over_of_endsWith {requests : List Request} {events : List Event}
    {result : Except TrialError Outcome} (hends : t.EndsWith requests events result) :
    ∃ n, (t.after n).attempt = .over result ∧ (t.after n).requests = requests ∧
      (t.after n).events = events := by
  cases hends with
  | unsampled hreply =>
    refine ⟨1, ?_⟩
    rw [after_one hreply]
    exact ⟨rfl, rfl, rfl⟩
  | uncounted hreply hready =>
    refine ⟨1, ?_⟩
    rw [after_one_of_uncounted hreply hready]
    exact ⟨rfl, rfl, rfl⟩
  | rejected hsamples hreply =>
    refine ⟨2, ?_⟩
    rw [after_two hsamples hreply]
    exact ⟨rfl, rfl, rfl⟩
  | failed hposts hlinks hfirst =>
    obtain ⟨n, pauses, hafter⟩ := exists_behind_of_endsFirstAt hposts hlinks hfirst
    refine ⟨n, ?_⟩
    rw [hafter]
    exact ⟨rfl, rfl, rfl⟩
  | ended hposts hlinks hfirst =>
    obtain ⟨n, pauses, hafter⟩ := exists_behind_of_endsFirstAt hposts hlinks hfirst
    have hmade := hfirst.1.measured.1
    refine ⟨n, ?_⟩
    rw [hafter, behind_measured, hmade]
    exact ⟨rfl, rfl, rfl⟩

/-- The Unix time at a look at the clock, of which there are two for each moment. -/
def reading (t : Venture) (look : Nat) : Int :=
  if look % 2 = 0 then (t.unix (look / 2)).1 else (t.unix (look / 2)).2

/-- The Unix times that the clock shows during so many steps of an attempt. -/
def times (t : Venture) (n : Nat) : List Int :=
  (List.range (2 * (t.after n).requests.length + 2)).map t.reading

/-- An outcome is stamped at the second look of its moment. -/
theorem reading_second (t : Venture) (k : Nat) : t.reading (2 * k + 1) = (t.unix k).2 := by
  have hodd : (2 * k + 1) % 2 ≠ 0 := by omega
  have hhalf : (2 * k + 1) / 2 = k := by omega
  rw [reading, if_neg hodd, hhalf]

/-- Every event is stamped with a Unix time that the clock shows, a later one no earlier. -/
theorem exists_stamps (t : Venture) (n : Nat) :
    ∃ stamps : List Nat, (t.after n).events.map (·.observedAt) = stamps.map t.reading ∧
      stamps.Pairwise (· ≤ ·) ∧ ∀ look ∈ stamps, look < 2 * (t.after n).requests.length + 2 := by
  cases (t.stage_after n).stands with
  | sampling _ _ hevents => exact ⟨[], by rw [hevents]; rfl, .nil, nofun⟩
  | posting _ _ _ hevents => exact ⟨[], by rw [hevents]; rfl, .nil, nofun⟩
  | watching _ _ _ _ hrequests hevents =>
    refine ⟨[4], by rw [hevents]; rfl, List.pairwise_singleton _ _, ?_⟩
    simp [hrequests]
    omega
  | ended _ hends =>
    generalize (t.after n).requests = requests, (t.after n).events = events at hends
    cases hends with
    | unsampled | uncounted | rejected => exact ⟨[], rfl, .nil, nofun⟩
    | failed =>
      refine ⟨[4], rfl, List.pairwise_singleton _ _, ?_⟩
      simp
      omega
    | @ended _ _ k _ _ _ _ hfirst =>
      have hmade := hfirst.1.measured.1
      refine ⟨[4, 2 * (k + 2) + 1], ?_, List.pairwise_pair.mpr (by omega), ?_⟩
      · simp only [List.map_cons, List.map_nil, reading_second]
        rfl
      · simp [hmade]
        omega

/-- An event is stamped with one of the times that the clock shows. -/
theorem observedAt_mem_times {e : Event} (he : e ∈ (t.after n).events) :
    e.observedAt ∈ t.times n := by
  obtain ⟨stamps, hstamps, _, hbound⟩ := t.exists_stamps n
  have hmem : e.observedAt ∈ stamps.map t.reading := hstamps ▸ List.mem_map_of_mem he
  obtain ⟨look, hlook, hreading⟩ := List.mem_map.mp hmem
  exact List.mem_map.mpr ⟨look, List.mem_range.mpr (hbound look hlook), hreading⟩

/-- If the clock does not run back during an attempt, neither do the stamps of its events. -/
theorem pairwise_observedAt (htimes : (t.times n).Pairwise (· ≤ ·)) :
    (t.after n).events.Pairwise fun e later => e.observedAt ≤ later.observedAt := by
  obtain ⟨stamps, hstamps, hordered, hbound⟩ := t.exists_stamps n
  have hreading {j k : Nat} (hjk : j ≤ k) (hk : k < 2 * (t.after n).requests.length + 2) :
      t.reading j ≤ t.reading k := by
    rcases Nat.eq_or_lt_of_le hjk with rfl | hlt
    · exact Int.le_refl _
    · have hrange := List.pairwise_iff_getElem.mp (List.pairwise_map.mp htimes) j k
      simp only [List.length_range, List.getElem_range] at hrange
      exact hrange (by omega) hk hlt
  have hmapped : (stamps.map t.reading).Pairwise (· ≤ ·) := by
    apply List.pairwise_map.mpr
    apply hordered.imp_of_mem
    intro j k _ hk hjk
    exact hreading hjk (hbound k hk)
  rw [← hstamps] at hmapped
  exact List.pairwise_map.mp hmapped

/-- Up to its end an attempt stands where its requests and events say, and its hub has just these
events. It comes to exactly those ends at which one of its requests fails, the fleet does not tell
its ready replicas, or the watch ends, with the requests and the events that go with that end. And
over attempts made one after another the stamps of the events do not run back if the clock does
not. -/
theorem attempt_ends_as_told :
    (∀ (t : Venture) (n : Nat), t.Stands (t.after n) ∧
      (t.after n).hub = t.hub.publishAll (t.after n).events) ∧
    (∀ (t : Venture) (requests : List Request) (events : List Event)
      (result : Except TrialError Outcome),
      (∃ n, (t.after n).attempt = .over result ∧ (t.after n).requests = requests ∧
        (t.after n).events = events) ↔ t.EndsWith requests events result) ∧
    ∀ ventures : List (Venture × Nat),
      (ventures.flatMap fun (t, n) => t.times n).Pairwise (· ≤ ·) →
      (ventures.flatMap fun (t, n) => (t.after n).events).Pairwise
        fun e later => e.observedAt ≤ later.observedAt := by
  refine ⟨fun t n => ⟨(t.stage_after n).stands, (t.stage_after n).hub_eq⟩, ?_, ?_⟩
  · intro t requests events result
    refine ⟨?_, exists_over_of_endsWith⟩
    rintro ⟨n, hattempt, rfl, rfl⟩
    have hwait : (t.after n).attempt.wait t.settings = .over := by
      rw [hattempt]
      rfl
    cases (t.stage_after n).stands with
    | sampling hwait' => cases hwait.symm.trans hwait'
    | posting _ hwait' => cases hwait.symm.trans hwait'
    | watching _ _ hattempt' => cases hattempt.symm.trans hattempt'
    | ended hattempt' hends =>
      cases hattempt.symm.trans hattempt'
      exact hends
  · intro ventures htimes
    obtain ⟨hwithin, hbetween⟩ := List.pairwise_flatMap.mp htimes
    apply List.pairwise_flatMap.mpr
    refine ⟨fun ⟨t, n⟩ hmem => pairwise_observedAt (hwithin _ hmem), ?_⟩
    apply hbetween.imp
    intro ⟨t, n⟩ ⟨t', n'⟩ hle e he later hlater
    exact hle _ (observedAt_mem_times he) _ (observedAt_mem_times hlater)

/-- An attempt that gets each answer ten milliseconds, or by the other clock two seconds, after the
one before, and whose sinks take half of that. -/
def paced (replies : List (Except TrialError Snapshot)) (start : Int) : Venture where
  settings := .small 1 1
  hub := .empty
  reply k := replies[k]?
  moment k := ⟨⟨k * 10000000⟩, ⟨k * 10000000 + 5000000⟩, .ok (start + 2 * k),
    .ok (start + 2 * k + 1), .zero, 0⟩
  unix k := (start + 2 * k, start + 2 * k + 1)
  shows_moment _ := ⟨rfl, rfl⟩

/-- The first attempt sees its allocation succeed at the second look, twenty milliseconds behind its
request; the next one cannot fetch its allocation again; and the last one sees it succeed at once,
but stamps that only when the number of ready replicas has been published. -/
theorem attempt_ends_as_told_of_three :
    let first := paced [.ok (.withReady "fleet" 3), .ok (.pending "a"),
      .ok (.inState "a" "Allocated")] 100
    let second := paced [.ok (.withReady "fleet" 2), .ok (.pending "b"),
      .error (.missingField "kind")] 107
    let third := paced [.ok (.withReady "fleet" 1), .ok (.inState "c" "UnAllocated")] 114
    first.EndsWith [first.sampling, first.posting, .fetch "a"]
      [⟨"ReadyReplicas", 3, 0, 104⟩, ⟨"GameServerAllocated", 20, 0, 107⟩] (.ok .allocated) ∧
    second.EndsWith [second.sampling, second.posting, .fetch "b"]
      [⟨"ReadyReplicas", 2, 0, 111⟩] (.error (.missingField "kind")) ∧
    third.EndsWith [third.sampling, third.posting]
      [⟨"ReadyReplicas", 1, 0, 118⟩, ⟨"GameServerUnAllocated", 10, 0, 119⟩] (.ok .unallocated) ∧
    ([(first, 3), (second, 3), (third, 2)].flatMap fun (t, n) => t.times n) =
      [100, 101, 102, 103, 104, 105, 106, 107, 107, 108, 109, 110, 111, 112, 113, 114,
        114, 115, 116, 117, 118, 119] ∧
    ([(first, 3), (second, 3), (third, 2)].flatMap fun (t, n) => (t.after n).events).Pairwise
      fun e later => e.observedAt ≤ later.observedAt := by
  intro first second third
  obtain ⟨_, hends, hstamps⟩ := attempt_ends_as_told
  have htimes : ([(first, 3), (second, 3), (third, 2)].flatMap fun (t, n) => t.times n) =
      [100, 101, 102, 103, 104, 105, 106, 107, 107, 108, 109, 110, 111, 112, 113, 114,
        114, 115, 116, 117, 118, 119] := by decide
  refine ⟨(hends first _ _ _).mp ⟨3, rfl, rfl, by decide⟩,
    (hends second _ _ _).mp ⟨3, rfl, rfl, by decide⟩,
    (hends third _ _ _).mp ⟨2, rfl, rfl, by decide⟩, htimes, ?_⟩
  apply hstamps
  rw [htimes]
  decide

end Venture

end FleetTrial
