import FleetTrial.Proofs.Settings.Acceptance
import FleetTrial.Proofs.Trial.Timeline

/-!
# Users that end in time

A user looks at the time before it begins an attempt and before it thinks, and not while it thinks.
So it is over at the latest a think time behind the end of its time. The coordinator waits a grace
period longer than that time, counted from a pause behind the start of the last user: if no think
time is longer than the grace period and that pause together, it never waits in vain.
-/

namespace FleetTrial

/-- Whether settings are sound and limit a trial by its time alone. -/
structure Settings.IsTimed (s : Settings) (limit : Duration) : Prop where
  sound : s.IsSound
  extent_eq : s.extent = ⟨some limit, none⟩
  limit_pos : 0 < limit.nanos

/-- Settings that have passed their check and name nothing but a time are timed, if their waits fit
a word of milliseconds. -/
theorem Settings.isTimed_of_check {s : Settings} {limit : Duration} (hcheck : s.check = .ok ())
    (hextent : s.extent = ⟨some limit, none⟩) (hfit : s.crowd.maxWait.millis ≤ Text.maxWord64) :
    s.IsTimed limit := by
  obtain ⟨husers, hordered⟩ := crowd_of_check hcheck
  obtain ⟨_, hpos, _⟩ := extent_of_check (parts_of_check hcheck).extent
  have hduration : s.extent.duration = some limit := by rw [hextent]
  exact ⟨⟨⟨husers, hordered⟩, hfit⟩, hextent, hpos limit hduration⟩

/-- A timed trial waits for its users as long as its time and the grace period take. -/
theorem Settings.IsTimed.patience_eq {s : Settings} {limit : Duration} (htimed : s.IsTimed limit) :
    Trial.patience s = some (limit + gracePeriod) := by
  rw [Trial.patience, htimed.extent_eq]
  rfl

/-- Whether an attempt has nothing to watch yet. -/
def Attempt.IsBrief : Attempt → Prop
  | .sampling | .requesting _ _ => True
  | _ => False

/-- An attempt whose request is answered with an allocation that has ended is over. -/
theorem Attempt.result?_posted_ne_none {s : Settings} {m : Moment} {unix : Int × Int}
    {ready : UInt64} {postedAt : Instant} {initial : Snapshot} (hunix : m.Shows unix)
    (hfinal : initial.IsFinal) : (posted s m ready postedAt initial).1.result? ≠ none := by
  have hwatch : ∃ measurement, Watch.start s.polling.allocationDeadline s.polling.interval initial
      postedAt m.readings = .over (.ok measurement) := by
    unfold Watch.start Poll.inspect Poll.outcome?
    rcases hfinal with hstate | hstate <;> simp only [hstate, Option.bind_some] <;> exact ⟨_, rfl⟩
  obtain ⟨measurement, hwatch⟩ := hwatch
  simp only [posted, stamp, hunix.1, hunix.2, Except.map, hwatch, settle]
  exact Option.some_ne_none _

namespace User

variable {s : Settings} {limit : Duration} {m : Moment} {unix : Int × Int} {u u' : User}
  {answer : Answer} {time last due : Nat}

/-- Whether a user has not begun its work. -/
def IsUnbegun (u : User) : Prop :=
  match u.activity with
  | .connecting _ | .starting => True
  | _ => False

/-- What a user that watches nothing does at some time: it ends its work, begins its first attempt,
begins another one behind its think time, goes on in an attempt, or thinks behind it. -/
inductive Turn (s : Settings) (limit : Duration) (time : Nat) (u u' : User) : Prop
  | ended (hover : u'.isOver = true)
  | begun (hbefore : u.IsUnbegun) (hafter : u'.activity = .attempting .sampling)
    (hstarted : u'.startedAt.nanos = time)
  | again {span : Duration} (hbefore : u.activity = .thinking span)
    (hafter : u'.activity = .attempting .sampling) (hstarted : u'.startedAt = u.startedAt)
    (htime : time < u.startedAt.nanos + limit.nanos)
  | sampled {ready : UInt64} {postedAt : Instant} (hbefore : u.activity = .attempting .sampling)
    (hafter : u'.activity = .attempting (.requesting ready postedAt))
    (hstarted : u'.startedAt = u.startedAt)
  | thought {attempt : Attempt} {span : Duration} (hbefore : u.activity = .attempting attempt)
    (hafter : u'.activity = .thinking span) (hstarted : u'.startedAt = u.startedAt)
    (htime : time < u.startedAt.nanos + limit.nanos)
    (hleast : s.crowd.minWait.millis * 1000000 ≤ span.nanos)
    (hgreatest : span.nanos ≤ s.crowd.maxWait.nanos)

/-- A user that is not done has time left. -/
theorem time_lt_of_isDone_eq_false (htimed : s.IsTimed limit)
    (hdone : u.isDone s ⟨time⟩ = false) : time < u.startedAt.nanos + limit.nanos := by
  unfold isDone at hdone
  rw [htimed.extent_eq] at hdone
  simp only [Bool.or_eq_false_iff, Option.any_some, decide_eq_false_iff_not] at hdone
  omega

/-- A think time lies between its bounds, as far as they are whole milliseconds. -/
theorem nanos_thinkTime_between (hsound : s.IsSound) {chance : Nat} {span : Duration}
    (hspan : thinkTime s chance = .ok span) :
    s.crowd.minWait.millis * 1000000 ≤ span.nanos ∧ span.nanos ≤ s.crowd.maxWait.nanos := by
  obtain ⟨span', hspan', hleast, hgreatest⟩ := hsound.thinkTime_between chance
  obtain rfl : span' = span := Except.ok.inj (hspan'.symm.trans hspan)
  have hwhole : span'.nanos = span'.millis * 1000000 := by
    unfold thinkTime at hspan
    simp only at hspan
    split at hspan
    · cases hspan
    · cases hspan
      simp only [Duration.ofMillis, Duration.millis]
      omega
  unfold Duration.millis at hleast hgreatest hwhole ⊢
  omega

/-- A user without signals that goes on before an attempt ends its work or begins the attempt. -/
theorem Begun.cases_of_quiet {wall : Duration} (hbegun : Begun s wall u u')
    (hsignals : u.signals = 0) :
    u'.isOver = true ∨ u.isDone s wall = false ∧ u'.activity = .attempting .sampling ∧
      u'.startedAt = u.startedAt := by
  cases hbegun with
  | finished => exact .inl rfl
  | attempting hdone => exact .inr ⟨hdone, rfl, rfl⟩
  | dropping _ hmissed => omega

/-- An attempt that has nothing to watch yet, and is answered promptly, goes on to its request. -/
theorem requesting_of_move {attempt attempt' : Attempt} {events : List Event}
    (hmove : Attempt.Move unix attempt answer attempt' events) (hbrief : attempt.IsBrief)
    (hunix : m.Shows unix) (hgoing : attempt'.result? = none)
    (hresume : (attempt.resume s m answer).1.result? = none)
    (hprompt : ∀ path body snapshot, attempt.wait s = .reply (.create path body) →
      answer = .reply (.ok snapshot) → snapshot.IsFinal) :
    attempt = .sampling ∧ ∃ ready postedAt, attempt' = .requesting ready postedAt := by
  cases hmove with
  | sampled _ ready now => exact ⟨rfl, ready, now, rfl⟩
  | unsampled => cases hgoing
  | rejected => cases hgoing
  | posted ready postedAt initial =>
    have hfinal : initial.IsFinal := hprompt _ _ initial rfl rfl
    exact absurd hresume (Attempt.result?_posted_ne_none hunix hfinal)
  | watched => exact hbrief.elim

/-- A user of a prompt control plane takes one of its turns, as long as it gets no signal. -/
theorem turn_of_move (htimed : s.IsTimed limit)
    (hmove : Move s m unix u answer (u.entry s m answer) u') (hunix : m.Shows unix)
    (hwall : m.wall = ⟨time⟩) (hsignals : u.signals = 0)
    (hbrief : ∀ attempt, u.activity = .attempting attempt → attempt.IsBrief)
    (hprompt : ∀ path body snapshot, u.wait s = .reply (.create path body) →
      answer = .reply (.ok snapshot) → snapshot.IsFinal) :
    Turn s limit time u u' ∧ u'.signals = 0 := by
  generalize hentry : u.entry s m answer = entry at hmove
  cases hmove with
  | refused => exact ⟨.ended rfl, hsignals⟩
  | @started _ u₁ _ target harrives _ hbegun =>
    have hunbegun : u.IsUnbegun := by
      cases harrives with
      | starting hactivity => simp only [IsUnbegun, hactivity]
      | connected hactivity => simp only [IsUnbegun, hactivity]
    have hquiet : u₁.signals = 0 := by
      cases harrives with
      | starting => exact hsignals
      | connected => exact hsignals
    have hkept : u'.signals = 0 := by cases hbegun <;> exact hquiet
    rcases hbegun.cases_of_quiet hquiet with hover | ⟨_, hafter, hstarted⟩
    · exact ⟨.ended hover, hkept⟩
    · have hnanos : u'.startedAt.nanos = time := by rw [hstarted, hwall]
      exact ⟨.begun hunbegun hafter hnanos, hkept⟩
  | @unstarted _ u₁ _ harrives =>
    have hquiet : u₁.signals = 0 := by
      cases harrives with
      | starting => exact hsignals
      | connected => exact hsignals
    exact ⟨.ended rfl, hquiet⟩
  | resumed hactivity hbegun =>
    have hkept : u'.signals = 0 := by cases hbegun <;> exact hsignals
    rcases hbegun.cases_of_quiet hsignals with hover | ⟨hdone, hafter, hstarted⟩
    · exact ⟨.ended hover, hkept⟩
    · rw [hwall] at hdone
      exact ⟨.again hactivity hafter hstarted (time_lt_of_isDone_eq_false htimed hdone), hkept⟩
  | stopped => exact ⟨.ended rfl, hsignals⟩
  | @attempting _ attempt attempt' events hactivity hattempt hgoing =>
    have hresume : (attempt.resume s m answer).1.result? = none := by
      unfold entry at hentry
      rw [hactivity] at hentry
      cases answer with
      | interrupted =>
        cases hattempt with
        | watched _ hanswer => exact absurd rfl hanswer
      | _ => exact congrArg Entry.result hentry
    have hwait : u.wait s = attempt.wait s := by simp only [wait, hactivity]
    rw [hwait] at hprompt
    obtain ⟨rfl, ready, postedAt, rfl⟩ :=
      requesting_of_move hattempt (hbrief attempt hactivity) hunix hgoing hresume hprompt
    exact ⟨.sampled hactivity rfl rfl, hsignals⟩
  | dropped _ _ _ hsignalled => omega
  | @ended _ attempt result events _ hactivity _ hreflected =>
    cases hreflected with
    | finished => exact ⟨.ended rfl, hsignals⟩
    | thinking hdone hspan =>
      rw [hwall] at hdone
      have htime := time_lt_of_isDone_eq_false htimed hdone
      obtain ⟨hleast, hgreatest⟩ := nanos_thinkTime_between htimed.sound hspan
      exact ⟨.thought hactivity rfl rfl htime hleast hgreatest, hsignals⟩
    | crashed => exact ⟨.ended rfl, hsignals⟩

/-- Whether a user has no signal and is on time, when the last user was started at `last` and its
own pause ends at `due`: a user that has not begun has only just been started, one that makes an
attempt has time left, and one that thinks has begun to do so with time left. -/
def IsPunctual (s : Settings) (limit : Duration) (last time due : Nat) (u : User) : Prop :=
  u.signals = 0 ∧
    match u.activity with
    | .connecting _ | .starting => time = last
    | .attempting attempt => attempt.IsBrief ∧ u.startedAt.nanos ≤ last ∧
      time < u.startedAt.nanos + limit.nanos
    | .thinking _ => u.startedAt.nanos ≤ last ∧ time ≤ due ∧
      due < u.startedAt.nanos + limit.nanos + s.crowd.maxWait.nanos
    | .dropping => False
    | _ => True

/-- A user that has just been started is punctual. -/
theorem isPunctual_create (s : Settings) (limit : Duration) (id time due : Nat) :
    (create s id).IsPunctual s limit time time due := by
  unfold IsPunctual create
  cases s.metrics.collector with
  | none => exact ⟨rfl, rfl⟩
  | some address => exact ⟨rfl, rfl⟩

/-- A user that is over is punctual if it has no signal. -/
theorem isPunctual_of_isOver (hover : u.isOver = true) (hsignals : u.signals = 0) :
    u.IsPunctual s limit last time due := by
  refine ⟨hsignals, ?_⟩
  cases hactivity : u.activity with
  | finished | unconnected | crashed | aborted => trivial
  | connecting | starting | attempting | dropping | thinking =>
    simp only [isOver, hactivity, Bool.false_eq_true] at hover

/-- A turn leaves a user punctual, with a new pause that begins now. -/
theorem Turn.isPunctual (hturn : Turn s limit time u u')
    (hpunctual : u.IsPunctual s limit last time due) (htimed : s.IsTimed limit)
    (hsignals : u'.signals = 0) :
    u'.IsPunctual s limit last time (time + (u'.wait s).span.nanos) := by
  obtain ⟨_, hpunctual⟩ := hpunctual
  cases hturn with
  | ended hover => exact isPunctual_of_isOver hover hsignals
  | begun hbefore hafter hstarted =>
    have hnow : time = last := by
      unfold IsUnbegun at hbefore
      split at hbefore
      · simpa only [*] using hpunctual
      · simpa only [*] using hpunctual
      · exact hbefore.elim
    have hpos := htimed.limit_pos
    refine ⟨hsignals, ?_⟩
    simp only [hafter]
    refine ⟨trivial, ?_, ?_⟩ <;> omega
  | again hbefore hafter hstarted htime =>
    simp only [hbefore] at hpunctual
    refine ⟨hsignals, ?_⟩
    simp only [hafter, hstarted]
    exact ⟨trivial, hpunctual.1, htime⟩
  | sampled hbefore hafter hstarted =>
    simp only [hbefore] at hpunctual
    refine ⟨hsignals, ?_⟩
    simp only [hafter, hstarted]
    exact ⟨trivial, hpunctual.2⟩
  | @thought _ span hbefore hafter hstarted htime _ hgreatest =>
    simp only [hbefore] at hpunctual
    have hspan : (u'.wait s).span = span := by simp only [wait, hafter, Wait.span]
    refine ⟨hsignals, ?_⟩
    simp only [hafter, hstarted, hspan]
    refine ⟨hpunctual.2.1, ?_, ?_⟩ <;> omega

/-- A punctual user that is not over has a pause's worth of time left at most. -/
theorem IsPunctual.time_lt (hpunctual : u.IsPunctual s limit last time due)
    (hbusy : u.isOver = false) (hpos : 0 < limit.nanos) :
    time < last + limit.nanos + s.crowd.maxWait.nanos := by
  obtain ⟨_, hpunctual⟩ := hpunctual
  cases hactivity : u.activity with
  | connecting | starting | attempting | thinking =>
    simp only [hactivity] at hpunctual
    omega
  | dropping =>
    simp only [hactivity] at hpunctual
  | finished | unconnected | crashed | aborted =>
    simp only [isOver, hactivity, Bool.true_eq_false] at hbusy

/-- A user that has begun stays punctual when another one is started. -/
theorem IsPunctual.later (hpunctual : u.IsPunctual s limit last time due) (hlate : last < time) :
    u.IsPunctual s limit time time due := by
  obtain ⟨hsignals, hpunctual⟩ := hpunctual
  refine ⟨hsignals, ?_⟩
  cases hactivity : u.activity with
  | connecting | starting =>
    simp only [hactivity] at hpunctual
    omega
  | attempting =>
    simp only [hactivity] at hpunctual
    refine ⟨hpunctual.1, ?_, hpunctual.2.2⟩
    omega
  | thinking =>
    simp only [hactivity] at hpunctual
    refine ⟨?_, hpunctual.2⟩
    omega
  | dropping => simp only [hactivity] at hpunctual
  | finished | unconnected | crashed | aborted => trivial

end User

/-- Whether a phase comes before the users, with something to wait for. -/
def Phase.IsPreparing : Phase → Prop
  | .idle | .creating => True
  | .scaling readiness => readiness.wait ≠ .over
  | _ => False

namespace Trial

variable {t : Trial} {m : Moment} {answer : Answer}

/-- As long as one user is not over, not all of them are. -/
theorem allOver_eq_false {id : Nat} {u : User} (hu : t.users[id]? = some u)
    (hbusy : u.isOver = false) : t.allOver = false := by
  apply List.all_eq_false.mpr
  exact ⟨u, List.mem_of_getElem? hu, by rw [hbusy]; decide⟩

/-- What the coordinator does before there are users: it goes on to prepare the fleet, gives up, or
begins with the users. -/
inductive Prepares (m : Moment) (t : Trial) : Trial → Prop
  | goesOn {phase : Phase} (hphase : phase.IsPreparing) : Prepares m t { t with phase }
  | givesUp (e : TrialError) : Prepares m t { t with phase := .over (.error e) }
  | begins : Prepares m t (t.beginUsers m)

/-- A coordinator that goes on to wait for the fleet prepares it. -/
theorem prepares_awaitFleet (readiness : Readiness) : Prepares m t (t.awaitFleet m readiness) := by
  unfold awaitFleet
  split
  · exact .begins
  · exact .givesUp _
  · rename_i hok herror
    apply Prepares.goesOn
    intro hwait
    cases readiness with
    | pausing | fetching => cases hwait
    | «over» result =>
      cases result with
      | ok => exact hok rfl
      | error e => exact herror e rfl

/-- Before there are users the coordinator prepares the fleet. -/
theorem prepares_resumeCoordinator (hphase : t.phase.IsPreparing)
    (hadmits : t.coordinatorWait.Admits answer) :
    Prepares m t (t.resumeCoordinator m answer) := by
  obtain ⟨_, hcrash⟩ := hadmits.ordinary
  unfold coordinatorWait at hadmits
  unfold resumeCoordinator
  cases hbefore : t.phase with
  | idle =>
    simp only [hbefore] at hadmits
    cases hadmits
    simp only
    split
    · exact .goesOn trivial
    · exact .begins
  | creating =>
    simp only [hbefore] at hadmits
    cases hadmits
    simp only [created]
    split
    · exact prepares_awaitFleet _
    · split
      · exact prepares_awaitFleet _
      · exact .givesUp _
    · exact .givesUp _
  | scaling readiness =>
    cases answer with
    | crashed crash => exact absurd rfl (hcrash crash)
    | _ => exact prepares_awaitFleet _
  | launching | joining | stopping | deleting | «over» | crashed =>
    rw [hbefore] at hphase
    exact hphase.elim

/-- A coordinator with one more user to start starts it. -/
theorem launch_of_lt (hmore : t.users.length < t.settings.crowd.users) :
    t.launch = { t with
      phase := .launching
      users := t.users ++ [User.create t.settings t.users.length] } := if_pos hmore

/-- A coordinator that has started all its users begins to wait for them. -/
theorem launch_of_not_lt (hall : ¬t.users.length < t.settings.crowd.users) :
    t.launch = { t with phase := .joining } := if_neg hall

/-- Nothing comes to a coordinator that has crashed. -/
theorem phase_ne_crashed (hadmits : t.coordinatorWait.Admits answer) (crash : Crash) :
    t.phase ≠ .crashed crash := by
  intro hphase
  simp only [coordinatorWait, hphase] at hadmits
  cases hadmits

/-- A coordinator that starts its users goes on with the next one. -/
theorem resume_of_launching (hphase : t.phase = .launching)
    (hadmits : t.coordinatorWait.Admits answer) : t.resumeCoordinator m answer = t.launch := by
  simp only [coordinatorWait, hphase] at hadmits
  cases hadmits
  simp only [resumeCoordinator, hphase]

/-- A coordinator that waits for its users goes on when the wait is over. -/
theorem resume_of_joining (hphase : t.phase = .joining)
    (hadmits : t.coordinatorWait.Admits answer) : t.resumeCoordinator m answer = t.joined m := by
  have hanswer : answer = .go := by
    simp only [coordinatorWait, hphase] at hadmits
    split at hadmits
    · cases hadmits
      rfl
    · split at hadmits
      · cases hadmits
      · cases hadmits
        rfl
  simp only [resumeCoordinator, hphase, hanswer]

/-- A coordinator that goes on behind the report is over. -/
theorem resume_of_concluded (hphase : t.phase.IsConcluded)
    (hadmits : t.coordinatorWait.Admits answer) :
    (∃ waited, t.phase = .deleting waited) ∧
      ∃ result, t.resumeCoordinator m answer = { t with phase := .over result } := by
  cases hbefore : t.phase with
  | deleting waited =>
    refine ⟨⟨waited, rfl⟩, ?_⟩
    simp only [coordinatorWait, hbefore] at hadmits
    cases hadmits with
    | replied _ result =>
      simp only [resumeCoordinator, hbefore]
      cases result with
      | ok snapshot => exact ⟨waited, rfl⟩
      | error e => exact ⟨.error e, rfl⟩
  | «over» =>
    simp only [coordinatorWait, hbefore] at hadmits
    cases hadmits
  | idle | creating | scaling | launching | joining | stopping | crashed =>
    rw [hbefore] at hphase
    exact hphase.elim

end Trial

namespace TimedTrial

variable {s : Settings} {limit : Duration} {c : TimedTrial} {t : Trial} {m : Moment}
  {answer : Answer} {last : Nat}

/-- Whether all users are punctual. -/
def IsPunctual (s : Settings) (limit : Duration) (last : Nat) (c : TimedTrial) : Prop :=
  EachUser (fun id u => u.IsPunctual s limit last c.time (c.due (.user id))) c.trial.users

/-- The time until which the users that have been started were to be started, each with a pause
behind it. -/
def startsUntil (t : Trial) : Nat := t.startedAt.nanos + t.users.length * startPause.nanos

/-- Where a trial stands whose users are on time. The last user was started at `last`. The
coordinator pauses once more behind that, and from then on it waits for the users. It reports when
all of them are over. -/
inductive OnTime (s : Settings) (limit : Duration) (c : TimedTrial) : Prop
  | preparing (hphase : c.trial.phase.IsPreparing) (husers : c.trial.users = [])
  | launching {last : Nat} (hphase : c.trial.phase = .launching)
    (hdue : c.due .coordinator = last + startPause.nanos) (hearly : c.time ≤ c.due .coordinator)
    (hlast : last + startPause.nanos ≤ startsUntil c.trial) (hpunctual : c.IsPunctual s limit last)
  | joining {last : Nat} (hphase : c.trial.phase = .joining)
    (hdue : c.trial.allOver = false →
      last + startPause.nanos + limit.nanos + gracePeriod.nanos ≤ c.due .coordinator)
    (hlast : last + startPause.nanos ≤ startsUntil c.trial) (hpunctual : c.IsPunctual s limit last)
  | concluded (hphase : c.trial.phase.IsConcluded) (hover : c.trial.allOver = true)
    (hreported : c.trial.users = [] ∨ c.trial.report.isSome = true)
  | crashed {crash : Crash} (hphase : c.trial.phase = .crashed crash)
    (hover : c.trial.allOver = true)

/-- A coordinator that starts one more user leaves all users on time. -/
theorem onTime_launched (hsettings : t.settings = s)
    (hmore : t.users.length < t.settings.crowd.users) (htime : c.time ≤ startsUntil t)
    (hpunctual : EachUser (fun id u => u.IsPunctual s limit c.time c.time (c.due (.user id)))
      t.users) : (c.behind .coordinator t.launch).OnTime s limit := by
  have hlaunch := Trial.launch_of_lt hmore
  have hdue : (c.behind .coordinator t.launch).due .coordinator = c.time + startPause.nanos := by
    rw [due_behind_self, hlaunch]
    rfl
  have hstarts : c.time + startPause.nanos ≤ startsUntil t.launch := by
    rw [hlaunch]
    simp only [startsUntil, List.length_append, List.length_singleton, Nat.succ_mul] at htime ⊢
    omega
  rw [hlaunch] at hdue hstarts ⊢
  refine .launching rfl hdue (Nat.le_of_lt ?_) hstarts ?_
  · have hpause : 0 < startPause.nanos := by decide
    rw [hdue, time_behind]
    omega
  have hnew := User.isPunctual_create s limit t.users.length c.time
    (c.due (.user t.users.length))
  rw [← hsettings] at hnew ⊢
  exact EachUser.concat (hsettings ▸ hpunctual) hnew

/-- A coordinator that finds no more users to start leaves all users on time. -/
theorem onTime_gathered (htimed : s.IsTimed limit) (hsettings : t.settings = s)
    (hall : ¬t.users.length < t.settings.crowd.users)
    (hlate : last + startPause.nanos ≤ c.time) (hlast : last + startPause.nanos ≤ startsUntil t)
    (hpunctual : EachUser (fun id u => u.IsPunctual s limit last c.time (c.due (.user id)))
      t.users) : (c.behind .coordinator t.launch).OnTime s limit := by
  rw [Trial.launch_of_not_lt hall]
  refine .joining rfl ?_ hlast hpunctual
  intro hbusy
  have hover : ({ t with phase := .joining } : Trial).allOver = false := hbusy
  have hpatience : Trial.patience t.settings = some (limit + gracePeriod) := by
    rw [hsettings, htimed.patience_eq]
  have hwait : ({ t with phase := .joining } : Trial).wait .coordinator =
      .pause (limit + gracePeriod) := by
    simp only [Trial.wait, Trial.coordinatorWait, hover, hpatience]
    rfl
  have hspan : (limit + gracePeriod).nanos = limit.nanos + gracePeriod.nanos := rfl
  rw [due_behind_self, hwait, Wait.span, hspan]
  omega

/-- A user that is not over keeps the coordinator from waiting for all users. -/
theorem IsPunctual.time_lt_of_busy (hpunctual : c.IsPunctual s limit last)
    (hbusy : c.trial.allOver = false) (hpos : 0 < limit.nanos) :
    c.time < last + limit.nanos + s.crowd.maxWait.nanos := by
  obtain ⟨u, hmem, hu⟩ := List.all_eq_false.mp hbusy
  obtain ⟨id, hid⟩ := List.getElem?_of_mem hmem
  exact (hpunctual id u hid).time_lt (Bool.not_eq_true _ ▸ hu) hpos

/-- A trial that concludes with its users over is on time. -/
theorem onTime_conclude (hover : c.trial.allOver = true) :
    (c.behind .coordinator (c.trial.conclude m (.ok ()))).OnTime s limit := by
  rcases Trial.conclude_eq (t := c.trial) (m := m) (.ok ()) with ⟨crash, heq⟩ | ⟨report, heq⟩
  · rw [heq]
    exact .crashed rfl hover
  · rw [heq]
    cases c.trial.settings.fleet.deleteOnExit with
    | true => exact .concluded trivial hover (.inr rfl)
    | false => exact .concluded trivial hover (.inr rfl)

/-- A coordinator that prepares the fleet is on time when it begins with the users. -/
theorem onTime_of_preparing (htimed : s.IsTimed limit) (hsettings : c.trial.settings = s)
    (hphase : c.trial.phase.IsPreparing) (husers : c.trial.users = [])
    (hadmits : c.trial.coordinatorWait.Admits answer) (hwall : m.wall = ⟨c.time⟩) :
    (c.behind .coordinator (c.trial.resumeCoordinator m answer)).OnTime s limit := by
  have hprepares := Trial.prepares_resumeCoordinator (m := m) hphase hadmits
  generalize c.trial.resumeCoordinator m answer = t at hprepares
  cases hprepares with
  | goesOn hphase' => exact .preparing hphase' husers
  | givesUp e =>
    refine .concluded trivial ?_ (.inl husers)
    simp only [trial_behind, Trial.allOver, husers, List.all_nil]
  | begins =>
    refine onTime_launched hsettings ?_ ?_ ?_
    · rw [husers, hsettings]
      exact htimed.sound.users_pos
    · simp only [startsUntil, hwall]
      omega
    · rw [husers]
      intro id u hu
      cases hu

/-- A coordinator that starts its users is on time. -/
theorem onTime_of_launching (htimed : s.IsTimed limit) (hsettings : c.trial.settings = s)
    (hphase : c.trial.phase = .launching) (hdue : c.due .coordinator = last + startPause.nanos)
    (hearly : c.time ≤ c.due .coordinator) (hlast : last + startPause.nanos ≤ startsUntil c.trial)
    (hpunctual : c.IsPunctual s limit last) (hadmits : c.trial.coordinatorWait.Admits answer)
    (hready : c.IsReady .coordinator) :
    (c.behind .coordinator (c.trial.resumeCoordinator m answer)).OnTime s limit := by
  have hwait : c.trial.wait .coordinator = .pause startPause := by
    simp only [Trial.wait, Trial.coordinatorWait, hphase]
  have hlate : last + startPause.nanos ≤ c.time := by
    rw [← hdue]
    exact (Pauses.isReady_iff ⟨startPause, hwait⟩).mp hready
  rw [Trial.resume_of_launching hphase hadmits]
  by_cases hmore : c.trial.users.length < c.trial.settings.crowd.users
  · refine onTime_launched hsettings hmore ?_ ?_
    · omega
    · have hpause : 0 < startPause.nanos := by decide
      intro id u hu
      exact (hpunctual id u hu).later (by omega)
  · exact onTime_gathered htimed hsettings hmore hlate hlast hpunctual

/-- As long as a user is busy, the coordinator pauses to wait for it. -/
theorem pauses_of_joining (htimed : s.IsTimed limit) (hsettings : c.trial.settings = s)
    (hphase : c.trial.phase = .joining) (hbusy : c.trial.allOver = false) :
    c.Pauses .coordinator := by
  refine ⟨limit + gracePeriod, ?_⟩
  have hpatience : Trial.patience c.trial.settings = some (limit + gracePeriod) := by
    rw [hsettings, htimed.patience_eq]
  simp only [Trial.wait, Trial.coordinatorWait, hphase, hbusy, hpatience]
  rfl

/-- A coordinator that goes on behind its wait for the users finds them over: its patience has not
run out before. -/
theorem allOver_of_joining (htimed : s.IsTimed limit)
    (hwaits : s.crowd.maxWait ≤ gracePeriod + startPause) (hsettings : c.trial.settings = s)
    (hphase : c.trial.phase = .joining)
    (hdue : c.trial.allOver = false →
      last + startPause.nanos + limit.nanos + gracePeriod.nanos ≤ c.due .coordinator)
    (hpunctual : c.IsPunctual s limit last) (hready : c.IsReady .coordinator) :
    c.trial.allOver = true := by
  cases hover : c.trial.allOver with
  | true => rfl
  | false =>
    have hpauses : c.Pauses .coordinator := pauses_of_joining htimed hsettings hphase hover
    have hexpired : c.due .coordinator ≤ c.time := hpauses.isReady_iff.mp hready
    have hlimit := hdue hover
    have hbound := hpunctual.time_lt_of_busy hover htimed.limit_pos
    have hwaits : s.crowd.maxWait.nanos ≤ gracePeriod.nanos + startPause.nanos := hwaits
    omega

/-- A coordinator that has concluded stays on time. -/
theorem onTime_of_concluded (hphase : c.trial.phase.IsConcluded) (hover : c.trial.allOver = true)
    (hreported : c.trial.users = [] ∨ c.trial.report.isSome = true)
    (hadmits : c.trial.coordinatorWait.Admits answer) :
    (c.behind .coordinator (c.trial.resumeCoordinator m answer)).OnTime s limit := by
  obtain ⟨_, result, hends⟩ := Trial.resume_of_concluded (m := m) hphase hadmits
  rw [hends]
  exact .concluded trivial hover hreported

/-- While the users are on time, the coordinator leaves them so. -/
theorem OnTime.coordinate (hontime : c.OnTime s limit) (htimed : s.IsTimed limit)
    (hwaits : s.crowd.maxWait ≤ gracePeriod + startPause) (hsettings : c.trial.settings = s)
    (hadmits : c.trial.coordinatorWait.Admits answer) (hwall : m.wall = ⟨c.time⟩)
    (hready : c.IsReady .coordinator) :
    (c.behind .coordinator (c.trial.resumeCoordinator m answer)).OnTime s limit := by
  cases hontime with
  | preparing hphase husers =>
    exact onTime_of_preparing htimed hsettings hphase husers hadmits hwall
  | launching hphase hdue hearly hlast hpunctual =>
    exact onTime_of_launching htimed hsettings hphase hdue hearly hlast hpunctual hadmits hready
  | joining hphase hdue _ hpunctual =>
    have hover := allOver_of_joining htimed hwaits hsettings hphase hdue hpunctual hready
    rw [Trial.resume_of_joining hphase hadmits, Trial.joined, if_pos hover]
    exact onTime_conclude hover
  | concluded hphase hover hreported =>
    exact onTime_of_concluded hphase hover hreported hadmits
  | @crashed crash hphase => exact absurd hphase (Trial.phase_ne_crashed hadmits crash)

/-- What a user of a trial waits for. -/
theorem wait_user {id : Nat} {u : User} (hu : c.trial.users[id]? = some u)
    (hsettings : c.trial.settings = s) : c.trial.wait (.user id) = u.wait s := by
  simp only [Trial.wait, hu, hsettings]

/-- A punctual user that goes on takes a turn, and stays punctual. -/
theorem IsPunctual.turn {unix : Int × Int} {id : Nat} {u u' : User}
    (hpunctual : c.IsPunctual s limit last) (htimed : s.IsTimed limit)
    (hsettings : c.trial.settings = s) (hu : c.trial.users[id]? = some u)
    (hunix : m.Shows unix) (hwall : m.wall = ⟨c.time⟩)
    (hprompt : c.IsPrompt answer (.user id))
    (hmove : User.Move s m unix u answer (u.entry s m answer) u') :
    User.Turn s limit c.time u u' ∧
      u'.IsPunctual s limit last c.time (c.time + (u'.wait s).span.nanos) := by
  obtain ⟨hsignals, hstand⟩ := hpunctual id u hu
  have hbrief (attempt : Attempt) (hactivity : u.activity = .attempting attempt) :
      attempt.IsBrief := by
    simp only [hactivity] at hstand
    exact hstand.1
  have hprompt' (path : String) (body : Json) (snapshot : Snapshot)
      (hwait : u.wait s = .reply (.create path body)) (hanswer : answer = .reply (.ok snapshot)) :
      snapshot.IsFinal :=
    hprompt path body snapshot ((wait_user hu hsettings).trans hwait) hanswer
  obtain ⟨hturn, hsignals'⟩ :=
    User.turn_of_move htimed hmove hunix hwall hsignals hbrief hprompt'
  exact ⟨hturn, hturn.isPunctual ⟨hsignals, hstand⟩ htimed hsignals'⟩

/-- One punctual user in the place of another. -/
theorem IsPunctual.withUser {id : Nat} {u u' : User} {entry : Entry}
    (hpunctual : c.IsPunctual s limit last) (hsettings : c.trial.settings = s)
    (hu : c.trial.users[id]? = some u)
    (hu' : u'.IsPunctual s limit last c.time (c.time + (u'.wait s).span.nanos)) :
    (c.behind (.user id) (c.trial.withUser id entry u')).IsPunctual s limit last := by
  have hid : id < c.trial.users.length := (List.getElem?_eq_some_iff.mp hu).1
  intro number v hget
  have hv : (c.trial.users.set id u')[number]? = some v := hget
  rw [List.getElem?_set] at hv
  split at hv
  · rename_i hnumber
    subst hnumber
    cases hv
    have hnew : (c.trial.withUser id entry u').users[id]? = some u' := by
      rw [Trial.withUser, List.getElem?_set_self hid]
    have hwait : (c.trial.withUser id entry u').wait (.user id) = u'.wait s := by
      simp only [Trial.wait, hnew]
      rw [← hsettings]
      rfl
    rw [due_behind_self, hwait]
    exact hu'
  · rename_i hnumber
    have hne : Role.user number ≠ Role.user id := fun heq => hnumber (Role.user.inj heq).symm
    rw [due_behind_of_ne hne]
    exact hpunctual number v hv

/-- A user that goes on leaves all users on time. -/
theorem OnTime.work (hontime : c.OnTime s limit) (htimed : s.IsTimed limit)
    (hsettings : c.trial.settings = s) {unix : Int × Int} {id : Nat} {u u' : User}
    (hu : c.trial.users[id]? = some u) (hadmits : u.Admits s answer) (hunix : m.Shows unix)
    (hwall : m.wall = ⟨c.time⟩) (hprompt : c.IsPrompt answer (.user id))
    (hmove : User.Move s m unix u answer (u.entry s m answer) u') :
    (c.behind (.user id) (c.trial.withUser id (u.entry s m answer) u')).OnTime s limit := by
  have hbusy := Trial.allOver_eq_false hu hadmits.isOver_eq_false
  have hne : Role.coordinator ≠ .user id := nofun
  have hstarts : startsUntil c.trial =
      startsUntil (c.trial.withUser id (u.entry s m answer) u') := by
    simp only [startsUntil, Trial.withUser, List.length_set]
  cases hontime with
  | preparing _ husers =>
    rw [husers] at hu
    cases hu
  | launching hphase hdue hearly hlast hpunctual =>
    obtain ⟨_, hu'⟩ := hpunctual.turn htimed hsettings hu hunix hwall hprompt hmove
    refine .launching hphase ?_ ?_ (hstarts ▸ hlast) (hpunctual.withUser hsettings hu hu')
    · rw [due_behind_of_ne hne]
      exact hdue
    · rw [due_behind_of_ne hne]
      exact hearly
  | joining hphase hdue hlast hpunctual =>
    obtain ⟨_, hu'⟩ := hpunctual.turn htimed hsettings hu hunix hwall hprompt hmove
    refine .joining hphase (fun _ => ?_) (hstarts ▸ hlast) (hpunctual.withUser hsettings hu hu')
    rw [due_behind_of_ne hne]
    exact hdue hbusy
  | concluded _ hover | crashed _ hover =>
    rw [hover] at hbusy
    cases hbusy

/-- Time that passes leaves a user punctual: if it has something to do time stands still, and if it
thinks time does not pass the end of that. -/
theorem IsPunctual.pass {time : Nat} (hpunctual : c.IsPunctual s limit last)
    (hsettings : c.trial.settings = s) (hallows : timeline.Allows c (.pass time)) :
    ({ c with time } : TimedTrial).IsPunctual s limit last := by
  obtain ⟨hidle, _, hnext⟩ := hallows
  intro id u hu
  obtain ⟨hsignals, hstand⟩ := hpunctual id u hu
  obtain ⟨hready, _⟩ := hidle (.user id)
  have hnext := hnext (.user id)
  rw [IsReady, wait_user hu hsettings] at hready
  rw [Pauses, wait_user hu hsettings] at hnext
  refine ⟨hsignals, ?_⟩
  cases hactivity : u.activity with
  | connecting | starting =>
    simp only [User.wait, hactivity] at hready
    exact absurd trivial hready
  | attempting attempt =>
    simp only [hactivity] at hstand
    obtain ⟨hbrief, _⟩ := hstand
    simp only [User.wait, hactivity] at hready
    cases attempt with
    | sampling | requesting => exact absurd trivial hready
    | watching | «over» | crashed => exact hbrief.elim
  | thinking span =>
    simp only [hactivity] at hstand
    simp only [User.wait, hactivity] at hnext
    exact ⟨hstand.1, hnext ⟨span, rfl⟩, hstand.2.2⟩
  | dropping => simp only [hactivity] at hstand
  | finished | unconnected | crashed | aborted => trivial

/-- Time that passes leaves all users on time. -/
theorem OnTime.pass {time : Nat} (hontime : c.OnTime s limit) (hsettings : c.trial.settings = s)
    (hallows : timeline.Allows c (.pass time)) :
    ({ c with time } : TimedTrial).OnTime s limit := by
  cases hontime with
  | preparing hphase husers => exact .preparing hphase husers
  | launching hphase hdue hearly hlast hpunctual =>
    have hpauses : c.Pauses .coordinator :=
      ⟨startPause, by simp only [Trial.wait, Trial.coordinatorWait, hphase]⟩
    have hearly : time ≤ c.due .coordinator := hallows.2.2 .coordinator hpauses
    exact .launching hphase hdue hearly hlast (hpunctual.pass hsettings hallows)
  | joining hphase hdue hlast hpunctual =>
    exact .joining hphase hdue hlast (hpunctual.pass hsettings hallows)
  | concluded hphase hover hreported => exact .concluded hphase hover hreported
  | crashed hphase hover => exact .crashed hphase hover

/-- Every move on a time line leaves all users on time. -/
theorem OnTime.step {c' : TimedTrial} {cue : TimedCue} (hontime : c.OnTime s limit)
    (htimed : s.IsTimed limit) (hwaits : s.crowd.maxWait ≤ gracePeriod + startPause)
    (hsettings : c.trial.settings = s) (hmove : Move s c cue c') : c'.OnTime s limit := by
  cases hmove with
  | coordinator hadmits hwall hready =>
    exact hontime.coordinate htimed hwaits hsettings hadmits hwall hready
  | user hu hadmits hunix hwall _ hprompt hmove =>
    exact hontime.work htimed hsettings hu hadmits hunix hwall hprompt hmove
  | pass hallows => exact hontime.pass hsettings hallows

/-- All along a time line the users are on time, if no think time is longer than the grace period
and the pause behind the start of a user. -/
theorem onTime_of_run {history : List (Scene TimedTrial TimedCue)} (htimed : s.IsTimed limit)
    (hwaits : s.crowd.maxWait ≤ gracePeriod + startPause)
    (hrun : timeline.Run (create s) history c) : c.OnTime s limit := by
  induction hrun with
  | nil => exact .preparing trivial rfl
  | snoc hrun hallows ih =>
    exact ih.step htimed hwaits (settings_of_timed_run hrun) (move_perform hrun hallows)

/-- As long as a user of a trial on time is not over, all users are punctual. -/
theorem OnTime.exists_isPunctual (hontime : c.OnTime s limit) (hbusy : c.trial.allOver = false) :
    ∃ last, last + startPause.nanos ≤ startsUntil c.trial ∧ c.IsPunctual s limit last := by
  cases hontime with
  | preparing _ husers =>
    simp only [Trial.allOver, husers, List.all_nil, Bool.true_eq_false] at hbusy
  | launching _ _ _ hlast hpunctual => exact ⟨_, hlast, hpunctual⟩
  | joining _ _ hlast hpunctual => exact ⟨_, hlast, hpunctual⟩
  | concluded _ hover | crashed _ hover =>
    rw [hover] at hbusy
    cases hbusy

end TimedTrial

end FleetTrial
