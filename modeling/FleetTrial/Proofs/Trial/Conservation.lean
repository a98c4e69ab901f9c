import FleetTrial.Proofs.Settings.Sharing
import FleetTrial.Proofs.Trial.Logbook
import Mathlib.Algebra.Order.BigOperators.Group.List
import Mathlib.Algebra.Order.Group.Nat

/-!
# Conservation of the attempts

In a trial with a budget and without signals every user that connects makes exactly its share of
the attempts, and each attempt is counted once. So completed and failed attempts add up to the
shares of the users that connected, whatever order the tasks go on in; the share of a user that
could not connect is made and counted by nobody. The trial waits for its users as long as it takes.

A user fails its share only if it crashes on drawing a think time. That takes bounds that do not fit
a word of milliseconds, and no command line can say such bounds.
-/

namespace FleetTrial

namespace User

variable {s : Settings} {m : Moment} {unix : Int × Int} {u u' : User} {answer : Answer}
  {entry : Entry} {total id : Nat} {wall : Duration}

/-- Whether the attempts that a user has made fit its share and what it is doing. -/
def IsWithinShare (share : Nat) (u : User) : Prop :=
  match u.activity with
  | .connecting _ | .starting | .unconnected _ => u.attempts = 0
  | .attempting _ | .thinking _ | .crashed _ => u.target = some share ∧ u.attempts < share
  | .finished => u.attempts = share
  | .dropping | .aborted => False

/-- Whether a user is on its way through its share, with no signal to stop it. -/
def IsOnBudget (s : Settings) (id : Nat) (u : User) : Prop :=
  u.id = id ∧ u.IsSane s ∧ u.signals = 0 ∧ u.IsWithinShare (s.budget id)

/-- A user that has done nothing yet is on its way. -/
theorem isOnBudget_create (s : Settings) (id : Nat) : (create s id).IsOnBudget s id := by
  refine ⟨rfl, isSane_create s id, rfl, ?_⟩
  unfold IsWithinShare create
  cases s.metrics.collector <;> rfl

/-- The work of a user is over when its share is used up, and not before. -/
theorem isDone_eq (hbudgeted : s.IsBudgeted total) {share : Nat} (htarget : u.target = some share) :
    u.isDone s wall = decide (share ≤ u.attempts) := by
  simp only [isDone, htarget, hbudgeted.duration, Option.any_some, Option.any_none, Bool.or_false]

/-- A user that goes on before an attempt is within its share if it was so far. -/
theorem Begun.isWithinShare (hbegun : Begun s wall u u') (hbudgeted : s.IsBudgeted total)
    {share : Nat} (hsignals : u.signals = 0) (htarget : u.target = some share)
    (hattempts : u.attempts ≤ share) :
    u'.IsWithinShare share ∧ u'.signals = 0 := by
  cases hbegun with
  | finished hend =>
    refine ⟨?_, hsignals⟩
    rcases hend with hdone | hone
    · rw [isDone_eq hbudgeted htarget, decide_eq_true_eq] at hdone
      exact Nat.le_antisymm hattempts hdone
    · rw [hsignals] at hone
      cases hone
  | attempting hdone =>
    rw [isDone_eq hbudgeted htarget, decide_eq_false_iff_not] at hdone
    exact ⟨⟨htarget, Nat.lt_of_not_le hdone⟩, hsignals⟩
  | dropping _ hmissed =>
    rw [hsignals] at hmissed
    cases hmissed

/-- A user that goes on behind an attempt is within its share if it was so far. -/
theorem Reflected.isWithinShare (hreflected : Reflected s m u u') (hbudgeted : s.IsBudgeted total)
    {share : Nat} (hsignals : u.signals = 0) (htarget : u.target = some share)
    (hattempts : u.attempts ≤ share) : u'.IsWithinShare share ∧ u'.signals = 0 := by
  cases hreflected with
  | finished hdone =>
    rw [isDone_eq hbudgeted htarget, decide_eq_true_eq] at hdone
    exact ⟨Nat.le_antisymm hattempts hdone, hsignals⟩
  | thinking hdone =>
    rw [isDone_eq hbudgeted htarget, decide_eq_false_iff_not] at hdone
    exact ⟨⟨htarget, Nat.lt_of_not_le hdone⟩, hsignals⟩
  | crashed hdone =>
    rw [isDone_eq hbudgeted htarget, decide_eq_false_iff_not] at hdone
    exact ⟨⟨htarget, Nat.lt_of_not_le hdone⟩, hsignals⟩

/-- A move keeps a user on its way through its share. -/
theorem Move.isOnBudget (hmove : Move s m unix u answer entry u') (hbudgeted : s.IsBudgeted total)
    (hu : u.IsOnBudget s id) : u'.IsOnBudget s id := by
  obtain ⟨rfl, hsane, hsignals, hshare⟩ := hu
  refine ⟨hmove.id_eq, hmove.isSane hbudgeted.staffed hsane, And.symm ?_⟩
  cases hmove with
  | refused hactivity =>
    simp only [IsWithinShare, hactivity] at hshare
    exact ⟨hshare, hsignals⟩
  | @started _ u₁ _ target harrives htarget hbegun =>
    rw [hbudgeted.attemptsOf_eq] at htarget
    cases htarget
    have hu₁ : u₁.signals = 0 ∧ u₁.attempts = 0 := by
      cases harrives with
      | starting hactivity | connected hactivity =>
        simp only [IsWithinShare, hactivity] at hshare
        exact ⟨hsignals, hshare⟩
    exact hbegun.isWithinShare hbudgeted hu₁.1 rfl (hu₁.2 ▸ Nat.zero_le _)
  | unstarted _ hcrash =>
    rw [hbudgeted.attemptsOf_eq] at hcrash
    cases hcrash
  | resumed hactivity hbegun =>
    simp only [IsWithinShare, hactivity] at hshare
    exact hbegun.isWithinShare hbudgeted hsignals hshare.1 (Nat.le_of_lt hshare.2)
  | stopped _ hcause =>
    rcases hcause with ⟨_, hsignal⟩ | hactivity
    · rw [hsignals] at hsignal
      cases hsignal
    · simp only [IsWithinShare, hactivity] at hshare
  | attempting hactivity =>
    simp only [IsWithinShare, hactivity] at hshare
    exact ⟨hshare, hsignals⟩
  | dropped _ _ _ hsignal => omega
  | ended hactivity _ hreflected =>
    simp only [IsWithinShare, hactivity] at hshare
    exact hreflected.isWithinShare hbudgeted hsignals hshare.1 hshare.2

/-- No user makes more attempts than its share. -/
theorem IsOnBudget.attempts_le (hu : u.IsOnBudget s id) : u.attempts ≤ s.budget id := by
  obtain ⟨-, -, -, hshare⟩ := hu
  unfold IsWithinShare at hshare
  split at hshare
  · exact hshare ▸ Nat.zero_le _
  · exact hshare ▸ Nat.zero_le _
  · exact hshare ▸ Nat.zero_le _
  · exact Nat.le_of_lt hshare.2
  · exact Nat.le_of_lt hshare.2
  · exact Nat.le_of_lt hshare.2
  · exact Nat.le_of_eq hshare
  · exact hshare.elim
  · exact hshare.elim

/-- A user on its way is not in an attempt that it is going to drop. -/
theorem IsOnBudget.ne_dropping (hu : u.IsOnBudget s id) : u.activity ≠ .dropping := by
  intro hactivity
  simpa only [IsWithinShare, hactivity] using hu.2.2.2

end User

/-- A trial with a budget can report as long as its counters do not outgrow their words. -/
theorem Report.ofTrial_ok {s : Settings} {total : Nat} (hbudgeted : s.IsBudgeted total)
    (duration : Duration) {tally : Tally}
    (hfits : tally.completed.toNat + tally.failed.toNat ≤ Text.maxWord64) :
    ∃ report, ofTrial s duration tally = .ok report := by
  have husers : s.crowd.users ≠ 0 := Nat.pos_iff_ne_zero.mp hbudgeted.staffed.users_pos
  have hblock : ∃ block, settingsBlock s = .ok block := by
    simp only [settingsBlock, extentBlock, hbudgeted.duration, hbudgeted.attempts,
      Settings.attemptsPerUser, shareText, if_neg husers]
    split <;> exact ⟨_, rfl⟩
  obtain ⟨block, hblock⟩ := hblock
  have hattempts : tally.attempts = .ok (tally.completed + tally.failed) := if_pos hfits
  simp only [ofTrial, hblock, text, overallRows, Tally.successRate, hattempts]
  exact ⟨_, rfl⟩

namespace Trial

variable {s : Settings} {t t' : Trial} {m : Moment} {answer : Answer} {total : Nat}
  {history : List (Scene Trial TrialCue)}

/-- Whether the users of a trial have ended well, and only the deletion of the fleet has failed. -/
def FailsToDelete (history : List (Scene Trial TrialCue)) (e : TrialError) : Prop :=
  ∃ scene ∈ history, scene.before.phase = .deleting (.ok ()) ∧
    ∃ m, scene.cue = .answer .coordinator m (.reply (.error e))

/-- Whether a trial is in a phase that it comes to without being cut short. -/
def IsOnCourse (history : List (Scene Trial TrialCue)) (t : Trial) : Prop :=
  match t.phase with
  | .idle | .creating | .scaling _ | .launching => True
  | .joining => t.users.length = t.settings.crowd.users
  | .deleting waited => waited = .ok () ∧ t.users.length = t.settings.crowd.users
  | .over result => t.report.isSome = true → t.users.length = t.settings.crowd.users ∧
    (result = .ok () ∨ ∃ e, result = .error e ∧ FailsToDelete history e)
  | .stopping | .crashed _ => False

/-- How many attempts have ended completed. -/
def completions (history : List (Scene Trial TrialCue)) : Nat :=
  (endings history).countP fun ending => Entry.isCompletion ending.2

/-- How many attempts have ended otherwise. -/
def failures (history : List (Scene Trial TrialCue)) : Nat :=
  (endings history).countP fun ending => !Entry.isCompletion ending.2

/-- What is known of a trial with a budget to which no signal has come. -/
structure Conserving (s : Settings) (history : List (Scene Trial TrialCue)) (t : Trial) : Prop where
  settings : t.settings = s
  users : EachUser (fun id u => u.IsOnBudget s id ∧ Logged s history id u) t.users
  unstarted : ∀ id, t.users.length ≤ id → Logged s history id (User.create s id)
  length : t.users.length ≤ s.crowd.users
  completed : t.tally.completed = UInt64.ofNat (completions history)
  failed : t.tally.failed = UInt64.ofNat (failures history)
  counted : completions history + failures history = (t.users.map (·.attempts)).sum
  usersFailed : t.tally.usersFailed = UInt64.ofNat (refusals history).length
  once : (refusals history).Nodup
  course : IsOnCourse history t

/-- The users on their way are orderly. -/
theorem Conserving.isOrderly (hconserving : Conserving s history t) : t.IsOrderly := by
  intro id u hu
  obtain ⟨hid, hsane, -⟩ := (hconserving.users id u hu).1
  exact ⟨hid, hsane.1⟩

/-- The shares of orderly users are those of their numbers. -/
theorem IsOrderly.map_budget (horderly : t.IsOrderly) :
    (t.users.map fun u => s.budget u.id) = (List.range t.users.length).map s.budget := by
  rw [← horderly.map_id, List.map_map]
  rfl

/-- Users on their way have made no more attempts together than the total. -/
theorem Conserving.sum_attempts_le (hconserving : Conserving s history t)
    (hbudgeted : s.IsBudgeted total) : (t.users.map (·.attempts)).sum ≤ total := by
  have hshares : (t.users.map (·.attempts)).sum ≤ (t.users.map fun u => s.budget u.id).sum := by
    refine List.sum_le_sum fun u hu => ?_
    obtain ⟨id, hid⟩ := List.getElem?_of_mem hu
    have hu := (hconserving.users id u hid).1
    rw [hu.1]
    exact hu.attempts_le
  rw [hconserving.isOrderly.map_budget] at hshares
  exact Nat.le_trans hshares (hbudgeted.sum_budget_le hconserving.length)

/-- The counters of a trial on its way do not outgrow their words. -/
theorem Conserving.counters_eq (hconserving : Conserving s history t)
    (hbudgeted : s.IsBudgeted total) :
    t.tally.completed.toNat = completions history ∧ t.tally.failed.toNat = failures history := by
  have hfits : completions history + failures history ≤ Text.maxWord64 := by
    rw [hconserving.counted]
    exact Nat.le_trans (hconserving.sum_attempts_le hbudgeted) hbudgeted.fits
  rw [hconserving.completed, hconserving.failed]
  exact ⟨Text.toNat_word (Nat.le_trans (Nat.le_add_right _ _) hfits),
    Text.toNat_word (Nat.le_trans (Nat.le_add_left _ _) hfits)⟩

/-- Together the counters of a trial on its way hold all attempts that its users have made. -/
theorem Conserving.sum_counters_eq (hconserving : Conserving s history t)
    (hbudgeted : s.IsBudgeted total) :
    t.tally.completed.toNat + t.tally.failed.toNat = (t.users.map (·.attempts)).sum := by
  obtain ⟨hcompleted, hfailed⟩ := hconserving.counters_eq hbudgeted
  rw [hcompleted, hfailed, hconserving.counted]

/-- A trial on its way reports well when it concludes. -/
theorem Conserving.conclude_ok (hconserving : Conserving s history t)
    (hbudgeted : s.IsBudgeted total) (m : Moment) :
    ∃ report, t.conclude m (.ok ()) = { t with
      report := some report
      phase := if s.fleet.deleteOnExit then .deleting (.ok ()) else .over (.ok ()) } := by
  have hfits : t.tally.completed.toNat + t.tally.failed.toNat ≤ Text.maxWord64 := by
    rw [hconserving.sum_counters_eq hbudgeted]
    exact Nat.le_trans (hconserving.sum_attempts_le hbudgeted) hbudgeted.fits
  obtain ⟨report, hreport⟩ := Report.ofTrial_ok hbudgeted ⟨m.wall.nanos - t.startedAt.nanos⟩ hfits
  refine ⟨report, ?_⟩
  simp only [conclude, hconserving.settings, hreport]

/-- A phase in which a trial starts its users is on course. -/
theorem isOnCourse_of_isStarting (hstarting : t.phase.IsStarting) : IsOnCourse history t := by
  unfold IsOnCourse
  cases hphase : t.phase <;> rw [hphase] at hstarting <;> trivial

/-- The deletion has failed in one of more scenes if it has in one of these. -/
theorem FailsToDelete.concat {e : TrialError} (hfails : FailsToDelete history e)
    (scene : Scene Trial TrialCue) : FailsToDelete (history ++ [scene]) e := by
  obtain ⟨earlier, hearlier, hscene⟩ := hfails
  exact ⟨earlier, List.mem_append_left _ hearlier, hscene⟩

/-- A trial stays on course in scenes that do not concern the coordinator. -/
theorem IsOnCourse.concat (hcourse : IsOnCourse history t) (scene : Scene Trial TrialCue)
    (hphase : t'.phase = t.phase) (hsettings : t'.settings = t.settings)
    (hlength : t'.users.length = t.users.length) (hreport : t'.report = t.report) :
    IsOnCourse (history ++ [scene]) t' := by
  unfold IsOnCourse at hcourse ⊢
  rw [hphase, hsettings, hlength, hreport]
  cases hbefore : t.phase with
  | «over» result =>
    rw [hbefore] at hcourse
    intro hreported
    obtain ⟨hall, hresult⟩ := hcourse hreported
    refine ⟨hall, hresult.imp_right ?_⟩
    rintro ⟨e, hresult, hfails⟩
    exact ⟨e, hresult, hfails.concat scene⟩
  | _ =>
    rw [hbefore] at hcourse
    exact hcourse

/-- The coordinator keeps a trial on course that it does not cut short. -/
theorem IsOnCourse.coordinate (hcourse : IsOnCourse history t) (hsettled : t.IsSettled)
    (hlength : t.users.length ≤ t.settings.crowd.users) (hmove : Move m t answer t')
    (hstopping : t'.phase ≠ .stopping) (hcrashed : ∀ crash, t'.phase ≠ .crashed crash) :
    IsOnCourse (history ++ [⟨t, .answer .coordinator m answer⟩]) t' := by
  have hnone := hsettled.report_eq_none
  cases hmove with
  | prepared hbefore hafter =>
    rcases hafter with hstarting | ⟨e, rfl⟩
    · exact isOnCourse_of_isStarting hstarting
    · intro hreported
      simp only [hnone hbefore.not_isConcluded] at hreported
      cases hreported
  | launched => trivial
  | gathered _ _ hall => exact Nat.le_antisymm hlength hall
  | concluded hphase hover =>
    simp only [IsOnCourse, hphase] at hcourse
    rcases conclude_eq (t := t) (m := m) (.ok ()) with ⟨crash, heq⟩ | ⟨report, heq⟩
    · rw [heq] at hcrashed
      exact absurd rfl (hcrashed crash)
    · rw [heq]
      unfold IsOnCourse
      cases t.settings.fleet.deleteOnExit with
      | true => exact ⟨rfl, hcourse⟩
      | false => exact fun _ => ⟨hcourse, .inl rfl⟩
  | alarmed => exact absurd rfl hstopping
  | cutOff hphase => simp only [IsOnCourse, hphase] at hcourse
  | deleted hphase snapshot =>
    simp only [IsOnCourse, hphase] at hcourse
    exact fun _ => ⟨hcourse.2, .inl hcourse.1⟩
  | undeleted hphase e =>
    simp only [IsOnCourse, hphase] at hcourse
    have hfails : FailsToDelete
        (history ++ [⟨t, .answer .coordinator m (.reply (.error e))⟩]) e :=
      ⟨_, List.mem_append_right _ List.mem_cons_self, hcourse.1 ▸ hphase, m, rfl⟩
    exact fun _ => ⟨hcourse.2, .inr ⟨e, rfl, hfails⟩⟩

/-- A trial on course that has reported has started all its users, and their wait ended well. -/
theorem IsOnCourse.waited_of_reported (hcourse : IsOnCourse history t)
    (hreported : t.report.isSome = true) (hconcluded : t.phase.IsConcluded) :
    t.users.length = t.settings.crowd.users ∧
      (t.phase = .deleting (.ok ()) ∨ t.phase = .over (.ok ()) ∨
        ∃ e, t.phase = .over (.error e) ∧ FailsToDelete history e) := by
  unfold IsOnCourse at hcourse
  cases hphase : t.phase <;> rw [hphase] at hconcluded hcourse
  case deleting waited =>
    exact ⟨hcourse.2, .inl (by rw [hcourse.1])⟩
  case «over» result =>
    obtain ⟨hall, rfl | ⟨e, rfl, hfails⟩⟩ := hcourse hreported
    · exact ⟨hall, .inr (.inl rfl)⟩
    · exact ⟨hall, .inr (.inr ⟨e, rfl, hfails⟩)⟩
  all_goals exact hconcluded.elim

/-- One more is added to a counter if there is something to count. -/
theorem ofNat_add_toNat (n : Nat) (b : Bool) :
    UInt64.ofNat (n + b.toNat) = UInt64.ofNat n + if b then 1 else 0 := by
  rw [UInt64.ofNat_add]
  cases b <;> rfl

/-- Scenes of the coordinator leave the endings and the refusals as they are. -/
theorem concat_coordinator (history : List (Scene Trial TrialCue)) (t : Trial) (m : Moment)
    (answer : Answer) :
    completions (history ++ [⟨t, .answer .coordinator m answer⟩]) = completions history ∧
      failures (history ++ [⟨t, .answer .coordinator m answer⟩]) = failures history ∧
      refusals (history ++ [⟨t, .answer .coordinator m answer⟩]) = refusals history := by
  have hendings : endings (history ++ [⟨t, .answer .coordinator m answer⟩]) = endings history :=
    (endings_concat _ _).trans (List.append_nil _)
  have hrefusals : refusals (history ++ [⟨t, .answer .coordinator m answer⟩]) = refusals history :=
    (refusals_concat _ _).trans (List.append_nil _)
  simp only [completions, failures, hendings, hrefusals, and_self]

/-- A scene of the coordinator keeps a trial on its way if it changes nothing but the phase and the
report. -/
theorem Conserving.concat_coordinator (hconserving : Conserving s history t)
    (hsettings : t'.settings = t.settings) (husers : t'.users = t.users)
    (htally : t'.tally = t.tally)
    (hcourse : IsOnCourse (history ++ [⟨t, .answer .coordinator m answer⟩]) t') :
    Conserving s (history ++ [⟨t, .answer .coordinator m answer⟩]) t' := by
  obtain ⟨hcompletions, hfailures, hrefusals⟩ := Trial.concat_coordinator history t m answer
  constructor
  case settings => exact hsettings.trans hconserving.settings
  case users =>
    rw [husers]
    exact fun id u hu => (hconserving.users id u hu).imp_right fun hlogged =>
      hlogged.concat_coordinator
  case unstarted =>
    rw [husers]
    exact fun id hid => (hconserving.unstarted id hid).concat_coordinator
  case length => exact husers ▸ hconserving.length
  case completed => rw [htally, hcompletions, hconserving.completed]
  case failed => rw [htally, hfailures, hconserving.failed]
  case counted => rw [husers, hcompletions, hfailures, hconserving.counted]
  case usersFailed => rw [htally, hrefusals, hconserving.usersFailed]
  case once => exact hrefusals ▸ hconserving.once
  case course => exact hcourse

/-- A trial that starts one more user stays on its way. -/
theorem Conserving.launch (hconserving : Conserving s history t) (startedAt : Duration)
    (hmore : t.users.length < t.settings.crowd.users) :
    Conserving s (history ++ [⟨t, .answer .coordinator m answer⟩]) { t with
      startedAt, phase := .launching
      users := t.users ++ [User.create t.settings t.users.length] } := by
  obtain rfl := hconserving.settings
  obtain ⟨hcompletions, hfailures, hrefusals⟩ := Trial.concat_coordinator history t m answer
  constructor
  case settings => rfl
  case users =>
    refine EachUser.concat (fun id u hu => (hconserving.users id u hu).imp_right fun hlogged =>
      hlogged.concat_coordinator) ⟨User.isOnBudget_create _ _, ?_⟩
    exact (hconserving.unstarted _ (Nat.le_refl _)).concat_coordinator
  case unstarted =>
    intro id hid
    rw [List.length_append] at hid
    exact (hconserving.unstarted id (Nat.le_of_succ_le hid)).concat_coordinator
  case length =>
    rw [List.length_append]
    exact hmore
  case completed => rw [hcompletions, hconserving.completed]
  case failed => rw [hfailures, hconserving.failed]
  case counted =>
    rw [hcompletions, hfailures, List.map_append, List.sum_append]
    exact hconserving.counted
  case usersFailed => rw [hrefusals, hconserving.usersFailed]
  case once => exact hrefusals ▸ hconserving.once
  case course => trivial

/-- The coordinator keeps a trial on its way. -/
theorem Conserving.coordinate (hconserving : Conserving s history t)
    (hbudgeted : s.IsBudgeted total) (hsettled : t.IsSettled) (hmove : Move m t answer t') :
    Conserving s (history ++ [⟨t, .answer .coordinator m answer⟩]) t' := by
  have hlength : t.users.length ≤ t.settings.crowd.users :=
    hconserving.settings ▸ hconserving.length
  have hcourse := hconserving.course.coordinate hsettled hlength hmove
  cases hmove with
  | prepared hbefore hafter =>
    refine hconserving.concat_coordinator rfl rfl rfl ?_
    rcases hafter with hstarting | ⟨e, rfl⟩
    · exact isOnCourse_of_isStarting hstarting
    · exact hcourse nofun nofun
  | launched startedAt _ hmore => exact hconserving.launch startedAt hmore
  | gathered => exact hconserving.concat_coordinator rfl rfl rfl (hcourse nofun nofun)
  | concluded =>
    obtain ⟨report, hconclude⟩ := hconserving.conclude_ok hbudgeted m
    rw [hconclude] at hcourse ⊢
    refine hconserving.concat_coordinator rfl rfl rfl (hcourse ?_ ?_)
    · cases s.fleet.deleteOnExit <;> nofun
    · cases s.fleet.deleteOnExit <;> nofun
  | alarmed _ _ hpatience =>
    refine absurd ?_ hpatience
    rw [hconserving.settings, patience, hbudgeted.duration]
    rfl
  | cutOff hphase =>
    have hcourse := hconserving.course
    simp only [IsOnCourse, hphase] at hcourse
  | deleted => exact hconserving.concat_coordinator rfl rfl rfl (hcourse nofun nofun)
  | undeleted => exact hconserving.concat_coordinator rfl rfl rfl (hcourse nofun nofun)

/-- What one more ending adds to the endings of a kind. -/
theorem countP_concat_ending {scene : Scene Trial TrialCue} {id : Nat}
    {ending : Option (Except TrialError Outcome)} (hending : endingIn scene = ending.map (id, ·))
    (kind : Except TrialError Outcome → Bool) (history : List (Scene Trial TrialCue)) :
    ((endings (history ++ [scene])).countP fun e => kind e.2) =
      ((endings history).countP fun e => kind e.2) + (ending.any kind).toNat := by
  rw [endings_concat, List.countP_append, hending]
  cases ending with
  | none => rfl
  | some result => cases hkind : kind result <;> simp [hkind]

/-- A user keeps a trial on its way. -/
theorem Conserving.work (hconserving : Conserving s history t) (hbudgeted : s.IsBudgeted total)
    {unix : Int × Int} {id : Nat} {u u' : User} {entry : Entry} (hu : t.users[id]? = some u)
    (hover : u.isOver = false) (hmove : User.Move s m unix u answer entry u')
    {scene : Scene Trial TrialCue}
    (hnotes : Notes id scene entry.result entry.refused (u'.wait s).request?) :
    Conserving s (history ++ [scene]) (t.withUser id entry u') := by
  obtain ⟨hbudget, hlogged⟩ := hconserving.users id u hu
  have hlength : (t.withUser id entry u').users.length = t.users.length := List.length_set
  have hattempts := sum_map_set_add hu u' (·.attempts)
  rw [hmove.attempts_eq, ← entry.isCompleted_add_isFailed] at hattempts
  have hcompletions : completions (history ++ [scene]) =
      completions history + entry.isCompleted.toNat := countP_concat_ending hnotes.ending _ _
  have hfailures : failures (history ++ [scene]) = failures history + entry.isFailed.toNat :=
    countP_concat_ending hnotes.ending (fun result => !Entry.isCompletion result) _
  have hrefusals : refusals (history ++ [scene]) =
      refusals history ++ if entry.refused then [id] else [] := by
    rw [refusals_concat, hnotes.refusal]
    cases entry.refused <;> rfl
  constructor
  case settings => exact hconserving.settings
  case users =>
    intro number v hv
    by_cases hnumber : id = number
    · subst hnumber
      rw [withUser, List.getElem?_set_self (List.getElem?_eq_some_iff.mp hu).1] at hv
      cases hv
      exact ⟨hmove.isOnBudget hbudgeted hbudget, hlogged.concat_self hmove hbudget.2.2.1
        hbudget.ne_dropping hover hnotes⟩
    · rw [withUser, List.getElem?_set_ne hnumber] at hv
      exact (hconserving.users number v hv).imp_right fun hlogged =>
        hlogged.concat_other hnumber hnotes
  case unstarted =>
    intro number hnumber
    rw [hlength] at hnumber
    have hne : id ≠ number :=
      Nat.ne_of_lt (Nat.lt_of_lt_of_le (List.getElem?_eq_some_iff.mp hu).1 hnumber)
    exact (hconserving.unstarted number hnumber).concat_other hne hnotes
  case length => exact hlength ▸ hconserving.length
  case completed => rw [hcompletions, ofNat_add_toNat, ← hconserving.completed, withUser,
    Tally.enter_eq]
  case failed => rw [hfailures, ofNat_add_toNat, ← hconserving.failed, withUser, Tally.enter_eq]
  case counted =>
    -- The user has made one more attempt exactly if the entry counts one.
    have hcounted := hconserving.counted
    rw [hcompletions, hfailures]
    simp only [withUser]
    omega
  case usersFailed =>
    rw [hrefusals, withUser, Tally.enter_eq, hconserving.usersFailed, List.length_append]
    cases entry.refused
    · exact UInt64.add_zero _
    · exact (UInt64.ofNat_add _ _).symm
  case once =>
    -- A user that is not over has not been refused before.
    have hnew : id ∉ refusals history := by
      rw [hlogged.refused, User.isUnconnected_of_not_isOver hover]
      exact Bool.false_ne_true
    rw [hrefusals]
    split
    · exact List.nodup_append.mpr ⟨hconserving.once, List.pairwise_singleton _ _,
        fun number hnumber other hother heq =>
          hnew (List.mem_singleton.mp hother ▸ heq ▸ hnumber)⟩
    · rw [List.append_nil]
      exact hconserving.once
  case course => exact hconserving.course.concat scene rfl rfl hlength rfl

/-- A trial on its way that has reported has started all its users, and their wait ended well. -/
theorem Conserving.waited_of_reported (hconserving : Conserving s history t)
    (hreported : t.report.isSome = true) (hconcluded : t.phase.IsConcluded) :
    t.users.length = s.crowd.users ∧ (t.phase = .deleting (.ok ()) ∨ t.phase = .over (.ok ()) ∨
      ∃ e, t.phase = .over (.error e) ∧ FailsToDelete history e) := by
  obtain ⟨rfl, -, -, -, -, -, -, -, -, hcourse⟩ := hconserving
  exact hcourse.waited_of_reported hreported hconcluded

end Trial

end FleetTrial
