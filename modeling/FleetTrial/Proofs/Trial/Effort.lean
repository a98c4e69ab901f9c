import FleetTrial.Proofs.Trial.Punctuality
import Mathlib.Algebra.Order.BigOperators.Group.Finset
import Mathlib.Algebra.Order.Floor.Div

/-!
# The effort of a trial

If its users think at all, a trial on its time line does not go on for ever: what is left to do is
the rounds that the users have time for and the coordinator's own turns, and whenever a task goes on
there is less of it. Time only passes to the turn of some task.
-/

namespace FleetTrial

/-- How many attempts a user can begin in a span of nanoseconds, with a think time between any
two. -/
def Settings.rounds (s : Settings) (span : Nat) : Nat :=
  span ⌈/⌉ (s.crowd.minWait.millis * 1000000)

namespace Settings

variable {s : Settings} {long short : Nat}

/-- There are no more rounds in a shorter span. -/
theorem rounds_le_rounds (hthinks : 0 < s.crowd.minWait.millis) (hshort : short ≤ long) :
    s.rounds short ≤ s.rounds long := by
  have hpos : 0 < s.crowd.minWait.millis * 1000000 := by omega
  rw [rounds, ceilDiv_le_iff_le_mul hpos]
  exact Nat.le_trans hshort (le_smul_ceilDiv hpos)

/-- There is one round at least in a span that is not empty. -/
theorem rounds_pos (hthinks : 0 < s.crowd.minWait.millis) (hlong : 0 < long) :
    0 < s.rounds long := by
  have hpos : 0 < s.crowd.minWait.millis * 1000000 := by omega
  apply Nat.pos_of_ne_zero
  intro hnone
  have hle := (ceilDiv_le_iff_le_mul hpos).mp (Nat.le_of_eq hnone)
  omega

/-- A think time takes a round. -/
theorem rounds_sub_lt (hthinks : 0 < s.crowd.minWait.millis) (hlong : 0 < long)
    (hshort : short + s.crowd.minWait.millis * 1000000 ≤ long ∨ short = 0) :
    s.rounds short < s.rounds long := by
  have hpos : 0 < s.crowd.minWait.millis * 1000000 := by omega
  have hround := rounds_pos hthinks hlong
  have hcover : long ≤ s.crowd.minWait.millis * 1000000 * s.rounds long := le_smul_ceilDiv hpos
  have hfewer : s.rounds short ≤ s.rounds long - 1 := by
    rw [rounds, ceilDiv_le_iff_le_mul hpos, Nat.mul_sub, Nat.mul_one]
    omega
  omega

end Settings

namespace User

variable {s : Settings} {limit : Duration} {u u' : User} {time last due : Nat} {answer : Answer}

/-- How often a user goes on at most from some time on, if its own pause ends at `due`: three times
for each attempt that it has time for. -/
def effort (s : Settings) (limit : Duration) (time due : Nat) (u : User) : Nat :=
  match u.activity with
  | .connecting _ | .starting => 3 * s.rounds limit.nanos + 1
  | .attempting .sampling => 3 * s.rounds (u.startedAt.nanos + limit.nanos - time)
  | .attempting (.requesting _ _) => 3 * s.rounds (u.startedAt.nanos + limit.nanos - time) - 1
  | .thinking _ => 3 * s.rounds (u.startedAt.nanos + limit.nanos - due) + 1
  | _ => 0

/-- A user that is over has nothing left to do. -/
theorem effort_of_isOver (hover : u.isOver = true) : u.effort s limit time due = 0 := by
  cases hactivity : u.activity with
  | finished | unconnected | crashed | aborted => simp only [effort, hactivity]
  | connecting | starting | attempting | dropping | thinking =>
    simp only [isOver, hactivity, Bool.false_eq_true] at hover

/-- A punctual user that is not over has something left to do. -/
theorem IsPunctual.effort_pos (hpunctual : u.IsPunctual s limit last time due)
    (hthinks : 0 < s.crowd.minWait.millis) (hbusy : u.isOver = false) :
    0 < u.effort s limit time due := by
  obtain ⟨_, hpunctual⟩ := hpunctual
  cases hactivity : u.activity with
  | connecting | starting | thinking =>
    simp only [effort, hactivity]
    omega
  | attempting attempt =>
    simp only [hactivity] at hpunctual
    obtain ⟨hbrief, _, htime⟩ := hpunctual
    have hround : 0 < s.rounds (u.startedAt.nanos + limit.nanos - time) :=
      Settings.rounds_pos hthinks (by omega)
    cases attempt with
    | sampling | requesting =>
      simp only [effort, hactivity]
      omega
    | watching | «over» | crashed => exact hbrief.elim
  | dropping => simp only [hactivity] at hpunctual
  | finished | unconnected | crashed | aborted =>
    simp only [isOver, hactivity, Bool.true_eq_false] at hbusy

/-- A turn leaves a user less to do, if it does not come before the end of its pause. -/
theorem Turn.effort_lt (hturn : Turn s limit time u u')
    (hpunctual : u.IsPunctual s limit last time due) (hthinks : 0 < s.crowd.minWait.millis)
    (hbusy : u.isOver = false) (hdue : ∀ span, u.activity = .thinking span → due ≤ time) :
    u'.effort s limit time (time + (u'.wait s).span.nanos) < u.effort s limit time due := by
  have hpos := hpunctual.effort_pos hthinks hbusy
  obtain ⟨_, hpunctual⟩ := hpunctual
  cases hturn with
  | ended hover =>
    rw [effort_of_isOver hover]
    exact hpos
  | begun hbefore hafter hstarted =>
    have heffort : u.effort s limit time due = 3 * s.rounds limit.nanos + 1 := by
      unfold IsUnbegun at hbefore
      split at hbefore
      · simp only [effort, *]
      · simp only [effort, *]
      · exact hbefore.elim
    rw [heffort]
    simp only [effort, hafter, hstarted, Nat.add_sub_cancel_left]
    omega
  | @again span hbefore hafter hstarted =>
    have hnow : due ≤ time := hdue span hbefore
    have hrounds : s.rounds (u.startedAt.nanos + limit.nanos - time) ≤
        s.rounds (u.startedAt.nanos + limit.nanos - due) :=
      Settings.rounds_le_rounds hthinks (by omega)
    simp only [effort, hbefore, hafter, hstarted]
    omega
  | sampled hbefore hafter hstarted =>
    simp only [effort, hbefore] at hpos
    simp only [effort, hbefore, hafter, hstarted]
    omega
  | @thought attempt span hbefore hafter hstarted htime hleast =>
    have hspan : (u'.wait s).span = span := by simp only [wait, hafter, Wait.span]
    have hrounds : s.rounds (u.startedAt.nanos + limit.nanos - (time + span.nanos)) <
        s.rounds (u.startedAt.nanos + limit.nanos - time) := by
      apply Settings.rounds_sub_lt hthinks
      · omega
      · omega
    simp only [hbefore] at hpunctual
    obtain ⟨hbrief, _⟩ := hpunctual
    simp only [effort, hafter, hstarted, hspan]
    cases attempt with
    | sampling | requesting =>
      simp only [hbefore]
      omega
    | watching | «over» | crashed => exact hbrief.elim

/-- Nothing interrupts a user that has no signal. -/
theorem Admits.ne_interrupted (hadmits : u.Admits s answer) (hsignals : u.signals = 0) :
    answer ≠ .interrupted := by
  cases hadmits with
  | answered hadmits => exact hadmits.ordinary.1
  | interrupted hinterrupted =>
    simp only [isInterrupted, hsignals, Nat.lt_irrefl, decide_false, Bool.and_false,
      Bool.false_eq_true] at hinterrupted

end User

namespace TimedTrial

variable {s : Settings} {limit : Duration} {c c' : TimedTrial} {role : Role} {t : Trial}
  {m : Moment} {answer : Answer}

/-- How often the user with some number goes on at most. -/
def userEffort (s : Settings) (limit : Duration) (c : TimedTrial) (id : Nat) : Nat :=
  match c.trial.users[id]? with
  | none => 0
  | some u => u.effort s limit c.time (c.due (.user id))

/-- How often the coordinator and the users that it has not started yet go on at most, from the
start of the first user on. -/
def coordinatorEffort (s : Settings) (limit : Duration) (t : Trial) : Nat :=
  match t.phase with
  | .idle | .creating | .scaling _ => s.crowd.users * (3 * s.rounds limit.nanos + 2) + 3
  | .launching => (s.crowd.users - t.users.length) * (3 * s.rounds limit.nanos + 2) + 3
  | .joining => 2
  | .deleting _ => 1
  | _ => 0

/-- How often the tasks of a trial go on at most from the start of the first user on. -/
def effort (s : Settings) (limit : Duration) (c : TimedTrial) : Nat :=
  coordinatorEffort s limit c.trial +
    ∑ id ∈ Finset.range c.trial.users.length, c.userEffort s limit id

/-- A task that goes on leaves the effort of every other user that it leaves in its place. -/
theorem userEffort_behind {id : Nat} (hne : Role.user id ≠ role)
    (hget : t.users[id]? = c.trial.users[id]?) :
    (c.behind role t).userEffort s limit id = c.userEffort s limit id := by
  have hdue : (c.behind role t).due (.user id) = c.due (.user id) := due_behind_of_ne hne
  simp only [userEffort, trial_behind, time_behind, hget, hdue]

/-- A coordinator that goes on leaves the effort of the users that it leaves in their places. -/
theorem sum_userEffort_behind {n : Nat} (hkept : ∀ id < n, t.users[id]? = c.trial.users[id]?) :
    ∑ id ∈ Finset.range n, (c.behind .coordinator t).userEffort s limit id =
      ∑ id ∈ Finset.range n, c.userEffort s limit id := by
  apply Finset.sum_congr rfl
  intro id hid
  exact userEffort_behind nofun (hkept id (Finset.mem_range.mp hid))

/-- What a new user has to do. -/
theorem userEffort_create {id : Nat} (hu : c.trial.users[id]? = some (User.create s id)) :
    c.userEffort s limit id = 3 * s.rounds limit.nanos + 1 := by
  simp only [userEffort, hu]
  unfold User.effort User.create
  cases s.metrics.collector <;> rfl

/-- A coordinator that starts a user leaves less to do than was to do for it. -/
theorem effort_launched (limit : Duration) (hsettings : t.settings = s)
    (husers : t.users = c.trial.users) (hmore : t.users.length < t.settings.crowd.users) :
    (c.behind .coordinator t.launch).effort s limit + 1 =
      (s.crowd.users - c.trial.users.length) * (3 * s.rounds limit.nanos + 2) + 3 +
        ∑ id ∈ Finset.range c.trial.users.length, c.userEffort s limit id := by
  obtain ⟨rest, hrest⟩ : ∃ rest, s.crowd.users - c.trial.users.length = rest + 1 :=
    Nat.exists_eq_add_one.mpr (by rw [← husers, ← hsettings]; omega)
  have hlaunch : t.launch = { t with
      phase := .launching
      users := c.trial.users ++ [User.create s c.trial.users.length] } := by
    rw [← husers, ← hsettings]
    exact Trial.launch_of_lt hmore
  have hnew : (c.behind .coordinator t.launch).userEffort s limit c.trial.users.length =
      3 * s.rounds limit.nanos + 1 := by
    apply userEffort_create
    rw [trial_behind, hlaunch]
    exact List.getElem?_concat_length
  have hold : ∑ id ∈ Finset.range c.trial.users.length,
      (c.behind .coordinator t.launch).userEffort s limit id =
        ∑ id ∈ Finset.range c.trial.users.length, c.userEffort s limit id := by
    apply sum_userEffort_behind
    intro id hid
    rw [hlaunch]
    exact List.getElem?_append_left hid
  have hlength : (c.behind .coordinator t.launch).trial.users.length =
      c.trial.users.length + 1 := by
    rw [trial_behind, hlaunch, List.length_append, List.length_singleton]
  have hphase : coordinatorEffort s limit (c.behind .coordinator t.launch).trial =
      rest * (3 * s.rounds limit.nanos + 2) + 3 := by
    have hfewer : s.crowd.users - (c.trial.users.length + 1) = rest := by omega
    rw [trial_behind, hlaunch]
    simp only [coordinatorEffort, List.length_append, List.length_singleton, hfewer]
  have hmany : (rest + 1) * (3 * s.rounds limit.nanos + 2) =
      rest * (3 * s.rounds limit.nanos + 2) + (3 * s.rounds limit.nanos + 2) := Nat.succ_mul _ _
  rw [effort, hphase, hlength, Finset.sum_range_succ, hnew, hold, hrest, hmany]
  omega

/-- A coordinator that leaves the users as they are leaves less to do if it has less to do. -/
theorem effort_behind_coordinator_lt (husers : t.users = c.trial.users)
    (hless : coordinatorEffort s limit t < coordinatorEffort s limit c.trial) :
    (c.behind .coordinator t).effort s limit < c.effort s limit := by
  have hsum : ∑ id ∈ Finset.range c.trial.users.length,
      (c.behind .coordinator t).userEffort s limit id =
        ∑ id ∈ Finset.range c.trial.users.length, c.userEffort s limit id := by
    apply sum_userEffort_behind
    intro id _
    rw [husers]
  rw [effort, effort, trial_behind, husers, hsum]
  omega

/-- There is not more than one turn left once a trial has concluded. -/
theorem coordinatorEffort_conclude_le (s : Settings) (limit : Duration) (t : Trial) (m : Moment)
    (waited : Except TrialError Unit) :
    coordinatorEffort s limit (t.conclude m waited) ≤ 1 := by
  rcases Trial.conclude_eq (t := t) (m := m) waited with ⟨crash, heq⟩ | ⟨report, heq⟩
  · rw [heq]
    exact Nat.zero_le 1
  · rw [heq]
    cases hdelete : t.settings.fleet.deleteOnExit with
    | true => exact Nat.le_refl 1
    | false => exact Nat.zero_le 1

/-- A coordinator that starts its users leaves less to do. -/
theorem effort_lt_of_launching (hsettings : c.trial.settings = s)
    (hphase : c.trial.phase = .launching) :
    (c.behind .coordinator c.trial.launch).effort s limit < c.effort s limit := by
  by_cases hmore : c.trial.users.length < c.trial.settings.crowd.users
  · have hlaunched := effort_launched limit hsettings rfl hmore
    have hbefore : c.effort s limit = (s.crowd.users - c.trial.users.length) *
        (3 * s.rounds limit.nanos + 2) + 3 +
          ∑ id ∈ Finset.range c.trial.users.length, c.userEffort s limit id := by
      simp only [effort, coordinatorEffort, hphase]
    omega
  · rw [Trial.launch_of_not_lt hmore]
    apply effort_behind_coordinator_lt
    · rfl
    · simp only [coordinatorEffort, hphase]
      omega

/-- A coordinator that concludes leaves less to do. -/
theorem effort_lt_of_joining (hphase : c.trial.phase = .joining)
    (waited : Except TrialError Unit) :
    (c.behind .coordinator (c.trial.conclude m waited)).effort s limit < c.effort s limit := by
  have hconclude := coordinatorEffort_conclude_le s limit c.trial m waited
  have hbefore : coordinatorEffort s limit c.trial = 2 := by
    simp only [coordinatorEffort, hphase]
  apply effort_behind_coordinator_lt (Trial.conclude_users _)
  omega

/-- A coordinator that has concluded leaves less to do when it goes on. -/
theorem effort_lt_of_concluded (hphase : c.trial.phase.IsConcluded)
    (hadmits : c.trial.coordinatorWait.Admits answer) :
    (c.behind .coordinator (c.trial.resumeCoordinator m answer)).effort s limit <
      c.effort s limit := by
  obtain ⟨⟨waited, hbefore⟩, result, hends⟩ := Trial.resume_of_concluded (m := m) hphase hadmits
  rw [hends]
  apply effort_behind_coordinator_lt
  · rfl
  · simp only [coordinatorEffort, hbefore]
    exact Nat.one_pos

/-- What there is to do before there are users. -/
theorem effort_of_preparing (hphase : c.trial.phase.IsPreparing) (husers : c.trial.users = []) :
    c.effort s limit = s.crowd.users * (3 * s.rounds limit.nanos + 2) + 3 := by
  simp only [effort, husers, List.length_nil, Finset.range_zero, Finset.sum_empty, Nat.add_zero,
    coordinatorEffort]
  cases hbefore : c.trial.phase with
  | idle | creating | scaling => rfl
  | launching | joining | stopping | deleting | «over» | crashed =>
    rw [hbefore] at hphase
    exact hphase.elim

/-- A coordinator that prepares the fleet leaves no more to do. -/
theorem effort_le_of_preparing (htimed : s.IsTimed limit) (hsettings : c.trial.settings = s)
    (hphase : c.trial.phase.IsPreparing) (husers : c.trial.users = [])
    (hadmits : c.trial.coordinatorWait.Admits answer) :
    (c.behind .coordinator (c.trial.resumeCoordinator m answer)).effort s limit ≤
      c.effort s limit := by
  have hprepares := Trial.prepares_resumeCoordinator (m := m) hphase hadmits
  generalize c.trial.resumeCoordinator m answer = t at hprepares
  rw [effort_of_preparing hphase husers]
  cases hprepares with
  | @goesOn phase hphase' =>
    apply Nat.le_of_eq
    exact effort_of_preparing (c := c.behind .coordinator { c.trial with phase }) hphase' husers
  | givesUp e =>
    simp only [effort, trial_behind, husers, List.length_nil, Finset.range_zero, Finset.sum_empty]
    exact Nat.zero_le _
  | begins =>
    have hmore : c.trial.users.length < c.trial.settings.crowd.users := by
      rw [husers, hsettings]
      exact htimed.sound.users_pos
    have hlaunched := effort_launched (c := c) (t := { c.trial with startedAt := m.wall })
      limit hsettings rfl hmore
    rw [husers, List.length_nil, Finset.range_zero, Finset.sum_empty] at hlaunched
    exact Nat.le_trans (Nat.le_succ _) (Nat.le_of_eq hlaunched)

/-- A coordinator that goes on leaves no more to do, and less once there are users. -/
theorem OnTime.effort_coordinate (hontime : c.OnTime s limit) (htimed : s.IsTimed limit)
    (hwaits : s.crowd.maxWait ≤ gracePeriod + startPause) (hsettings : c.trial.settings = s)
    (hadmits : c.trial.coordinatorWait.Admits answer) (hready : c.IsReady .coordinator) :
    (c.behind .coordinator (c.trial.resumeCoordinator m answer)).effort s limit ≤
        c.effort s limit ∧
      (c.trial.users ≠ [] →
        (c.behind .coordinator (c.trial.resumeCoordinator m answer)).effort s limit <
          c.effort s limit) := by
  have hless : c.trial.phase.IsPreparing ∧ c.trial.users = [] ∨
      (c.behind .coordinator (c.trial.resumeCoordinator m answer)).effort s limit <
        c.effort s limit := by
    cases hontime with
    | preparing hphase husers => exact .inl ⟨hphase, husers⟩
    | launching hphase =>
      rw [Trial.resume_of_launching hphase hadmits]
      exact .inr (effort_lt_of_launching hsettings hphase)
    | joining hphase hdue _ hpunctual =>
      have hover := allOver_of_joining htimed hwaits hsettings hphase hdue hpunctual hready
      rw [Trial.resume_of_joining hphase hadmits, Trial.joined, if_pos hover]
      exact .inr (effort_lt_of_joining hphase _)
    | concluded hphase => exact .inr (effort_lt_of_concluded hphase hadmits)
    | @crashed crash hphase => exact absurd hphase (Trial.phase_ne_crashed hadmits crash)
  rcases hless with ⟨hphase, husers⟩ | hless
  · exact ⟨effort_le_of_preparing htimed hsettings hphase husers hadmits, absurd husers⟩
  · exact ⟨Nat.le_of_lt hless, fun _ => hless⟩

/-- A user that has less to do leaves less to do for all. -/
theorem effort_withUser_lt {id : Nat} {u u' : User} {entry : Entry}
    (hsettings : c.trial.settings = s) (hu : c.trial.users[id]? = some u)
    (hless : u'.effort s limit c.time (c.time + (u'.wait s).span.nanos) <
      u.effort s limit c.time (c.due (.user id))) :
    (c.behind (.user id) (c.trial.withUser id entry u')).effort s limit < c.effort s limit := by
  have hid : id < c.trial.users.length := (List.getElem?_eq_some_iff.mp hu).1
  have hget : (c.trial.withUser id entry u').users[id]? = some u' := by
    rw [Trial.withUser, List.getElem?_set_self hid]
  have hwait : (c.trial.withUser id entry u').wait (.user id) = u'.wait s := by
    simp only [Trial.wait, hget]
    rw [← hsettings]
    rfl
  have hself : (c.behind (.user id) (c.trial.withUser id entry u')).userEffort s limit id <
      c.userEffort s limit id := by
    simp only [userEffort, trial_behind, time_behind, hget, hu]
    rw [due_behind_self, hwait]
    exact hless
  have hothers : ∀ other ∈ Finset.range c.trial.users.length,
      (c.behind (.user id) (c.trial.withUser id entry u')).userEffort s limit other ≤
        c.userEffort s limit other := by
    intro other _
    by_cases hother : other = id
    · subst hother
      exact Nat.le_of_lt hself
    · have hne : Role.user other ≠ Role.user id := fun heq => hother (Role.user.inj heq)
      have hkept : (c.trial.withUser id entry u').users[other]? = c.trial.users[other]? := by
        rw [Trial.withUser, List.getElem?_set_ne (Ne.symm hother)]
      exact Nat.le_of_eq (userEffort_behind hne hkept)
  have hsum := Finset.sum_lt_sum hothers ⟨id, Finset.mem_range.mpr hid, hself⟩
  have hlength : (c.trial.withUser id entry u').users.length = c.trial.users.length :=
    List.length_set
  have hcoordinator : coordinatorEffort s limit (c.trial.withUser id entry u') =
      coordinatorEffort s limit c.trial := by
    simp only [coordinatorEffort, hlength]
    rfl
  simp only [effort, trial_behind, hlength, hcoordinator]
  omega

/-- A user that goes on was ready, and leaves less to do. -/
theorem OnTime.effort_work_lt {unix : Int × Int} {id : Nat} {u u' : User}
    (hontime : c.OnTime s limit) (htimed : s.IsTimed limit) (hthinks : 0 < s.crowd.minWait.millis)
    (hsettings : c.trial.settings = s) (hu : c.trial.users[id]? = some u)
    (hadmits : u.Admits s answer) (hunix : m.Shows unix) (hwall : m.wall = ⟨c.time⟩)
    (hready : answer = .interrupted ∨ c.IsReady (.user id)) (hprompt : c.IsPrompt answer (.user id))
    (hmove : User.Move s m unix u answer (u.entry s m answer) u') :
    c.IsReady (.user id) ∧
      (c.behind (.user id) (c.trial.withUser id (u.entry s m answer) u')).effort s limit <
        c.effort s limit := by
  have hbusy : u.isOver = false := hadmits.isOver_eq_false
  obtain ⟨_, _, hpunctual⟩ := hontime.exists_isPunctual (Trial.allOver_eq_false hu hbusy)
  obtain ⟨hturn, _⟩ := hpunctual.turn htimed hsettings hu hunix hwall hprompt hmove
  have hready : c.IsReady (.user id) :=
    hready.resolve_left (hadmits.ne_interrupted (hpunctual id u hu).1)
  have hdue (span : Duration) (hthinking : u.activity = .thinking span) :
      c.due (.user id) ≤ c.time := by
    have hpauses : c.Pauses (.user id) := by
      refine ⟨span, ?_⟩
      rw [wait_user hu hsettings]
      simp only [User.wait, hthinking]
    exact hpauses.isReady_iff.mp hready
  have hless := hturn.effort_lt (hpunctual id u hu) hthinks hbusy hdue
  exact ⟨hready, effort_withUser_lt hsettings hu hless⟩

/-- Time that passes when a user is not ready leaves that user as much to do. -/
theorem userEffort_pass {id : Nat} (hsettings : c.trial.settings = s)
    (hidle : ¬c.IsReady (.user id)) (time : Nat) :
    ({ c with time } : TimedTrial).userEffort s limit id = c.userEffort s limit id := by
  simp only [userEffort]
  cases hu : c.trial.users[id]? with
  | none => rfl
  | some u =>
    rw [IsReady, wait_user hu hsettings] at hidle
    simp only [User.effort]
    cases hactivity : u.activity with
    | attempting attempt =>
      simp only [User.wait, hactivity] at hidle
      cases attempt with
      | sampling | requesting => exact absurd trivial hidle
      | watching | «over» | crashed => rfl
    | _ => rfl

/-- Time that passes leaves as much to do. -/
theorem effort_pass {time : Nat} (hsettings : c.trial.settings = s)
    (hallows : timeline.Allows c (.pass time)) :
    ({ c with time } : TimedTrial).effort s limit = c.effort s limit := by
  simp only [effort]
  congr 1
  apply Finset.sum_congr rfl
  intro id _
  exact userEffort_pass hsettings (hallows.1 (.user id)).1 time

/-- No move on a time line leaves more to do. Once there are users, a task that goes on was ready
and leaves less to do. -/
theorem OnTime.effort_step {cue : TimedCue} (hontime : c.OnTime s limit) (htimed : s.IsTimed limit)
    (hwaits : s.crowd.maxWait ≤ gracePeriod + startPause) (hthinks : 0 < s.crowd.minWait.millis)
    (hsettings : c.trial.settings = s) (hmove : Move s c cue c') :
    c'.effort s limit ≤ c.effort s limit ∧
      ∀ role m answer, c.trial.users ≠ [] → cue = .act role m answer →
        c.IsReady role ∧ c'.effort s limit < c.effort s limit := by
  cases hmove with
  | @coordinator m answer hadmits _ hready =>
    obtain ⟨hle, hless⟩ :=
      hontime.effort_coordinate (m := m) htimed hwaits hsettings hadmits hready
    refine ⟨hle, ?_⟩
    intro _ _ _ hbegun heq
    cases heq
    exact ⟨hready, hless hbegun⟩
  | user hu hadmits hunix hwall hready hprompt hmove =>
    obtain ⟨hready, hless⟩ := hontime.effort_work_lt htimed hthinks hsettings hu hadmits hunix hwall
      hready hprompt hmove
    refine ⟨Nat.le_of_lt hless, ?_⟩
    intro _ _ _ _ heq
    cases heq
    exact ⟨hready, hless⟩
  | pass hallows =>
    refine ⟨Nat.le_of_eq (effort_pass hsettings hallows), ?_⟩
    intro _ _ _ _ heq
    cases heq

variable {history later : List (Scene TimedTrial TimedCue)}

/-- At no time of a run there is more to do than at its beginning. -/
theorem effort_le_of_run (htimed : s.IsTimed limit)
    (hwaits : s.crowd.maxWait ≤ gracePeriod + startPause) (hthinks : 0 < s.crowd.minWait.millis)
    (hrun : timeline.Run (create s) history c) :
    c.effort s limit ≤ s.crowd.users * (3 * s.rounds limit.nanos + 2) + 3 := by
  induction hrun with
  | nil => exact Nat.le_of_eq (effort_of_preparing trivial rfl)
  | snoc hrun hallows ih =>
    have hontime := onTime_of_run htimed hwaits hrun
    obtain ⟨hle, _⟩ := hontime.effort_step htimed hwaits hthinks (settings_of_timed_run hrun)
      (move_perform hrun hallows)
    exact Nat.le_trans hle ih

/-- Time that has passed has come to the end of a pause. -/
theorem exists_isReady_of_pass {time : Nat} (hallows : timeline.Allows c (.pass time)) :
    ∃ role, ({ c with time } : TimedTrial).IsReady role := by
  obtain ⟨_, ⟨role, hpauses, hdue⟩, _⟩ := hallows
  have hpauses : ({ c with time } : TimedTrial).Pauses role := hpauses
  exact ⟨role, hpauses.isReady_iff.mpr (Nat.le_of_eq hdue)⟩

/-- Every scene of a run that goes on once there are users is paid for by what there is to do: a
task that goes on pays for itself and for the time that passes behind it. -/
theorem length_add_effort_le (htimed : s.IsTimed limit)
    (hwaits : s.crowd.maxWait ≤ gracePeriod + startPause) (hthinks : 0 < s.crowd.minWait.millis)
    (hrun : timeline.Run (create s) history c) (hbegun : c.trial.users ≠ [])
    (hlater : timeline.Run c later c') :
    later.length + 2 * c'.effort s limit ≤ 2 * c.effort s limit + 1 ∧
      ((∀ role, ¬c'.IsReady role) →
        later.length + 2 * c'.effort s limit ≤ 2 * c.effort s limit) := by
  induction hlater with
  | nil =>
    simp only [List.length_nil]
    omega
  | @snoc later c' cue hlater hallows ih =>
    obtain ⟨hpaid, hidle⟩ := ih
    have hwhole := hrun.append hlater
    have hbegun' : c'.trial.users ≠ [] := by
      have hlength := Trial.length_users_le_of_run (run_acts hlater)
      have hpos := List.length_pos_iff.mpr hbegun
      exact List.length_pos_iff.mp (Nat.lt_of_lt_of_le hpos hlength)
    obtain ⟨hle, hless⟩ := (onTime_of_run htimed hwaits hwhole).effort_step htimed hwaits hthinks
      (settings_of_timed_run hwhole) (move_perform hwhole hallows)
    rw [List.length_append, List.length_singleton]
    cases cue with
    | act role m answer =>
      obtain ⟨_, hless⟩ := hless role m answer hbegun' rfl
      omega
    | pass time =>
      have hbefore := hidle fun role => (hallows.1 role).1
      obtain ⟨role, hready⟩ := exists_isReady_of_pass hallows
      refine ⟨by omega, ?_⟩
      intro hnone
      exact absurd hready (hnone role)

/-- Once there are users a run goes on for so many scenes at most. -/
theorem length_le_of_begun (htimed : s.IsTimed limit)
    (hwaits : s.crowd.maxWait ≤ gracePeriod + startPause) (hthinks : 0 < s.crowd.minWait.millis)
    (hrun : timeline.Run (create s) history c) (hbegun : c.trial.users ≠ [])
    (hlater : timeline.Run c later c') :
    later.length ≤ 2 * (s.crowd.users * (3 * s.rounds limit.nanos + 2) + 3) + 1 := by
  obtain ⟨hpaid, _⟩ := length_add_effort_le htimed hwaits hthinks hrun hbegun hlater
  have hbound := effort_le_of_run htimed hwaits hthinks hrun
  omega

end TimedTrial

end FleetTrial
