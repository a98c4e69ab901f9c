import FleetTrial.Proofs.Trial.Effort
import FleetTrial.Proofs.Trial.Robustness

/-!
# Trials that wait long enough

A trial that is limited by its time alone waits for its users for that time and a grace period. If
no think time is longer than the grace period and the pause behind the start of a user together,
that is long enough whatever think times the users draw: all of them are over by then, none of them
gets a signal, and the trial ends well. Accepted settings do not have to keep to that bound, and a
trial whose users think longer is cut short although nothing holds it up.
-/

namespace FleetTrial

/-- A moment at some time of a time line, with its other clocks at their origin. -/
def Moment.onLine (time : Nat) : Moment := ⟨⟨0⟩, ⟨0⟩, .ok 0, .ok 0, ⟨time⟩, 0⟩

/-- The Unix time of a moment on a time line is zero. -/
theorem Moment.isReadable_onLine (time : Nat) : (onLine time).IsReadable := ⟨(0, 0), rfl, rfl⟩

/-- Whatever a task waits for, unless it is over or waits for others, it may get something other
than an allocation. -/
theorem Wait.exists_admits {w : Wait} (hover : w ≠ .over) (hothers : w ≠ .others) :
    ∃ answer, w.Admits answer ∧ ∀ snapshot, answer ≠ .reply (.ok snapshot) := by
  cases w with
  | turn => exact ⟨.go, .turn, nofun⟩
  | connection address => exact ⟨.connected, .connected address, nofun⟩
  | reply request => exact ⟨_, .replied request (.error (.rejected 500 "")), nofun⟩
  | pause span => exact ⟨.go, .rested span, nofun⟩
  | others => exact absurd rfl hothers
  | «over» => exact absurd rfl hover

namespace TimedTrial

variable {s : Settings} {limit : Duration} {c : TimedTrial} {role : Role}
  {history : List (Scene TimedTrial TimedCue)}

/-- A task that is ready may go on. -/
theorem exists_allows_of_isReady (hready : c.IsReady role) : ∃ cue, timeline.Allows c cue := by
  have hwait : c.trial.wait role ≠ .over ∧ c.trial.wait role ≠ .others := by
    unfold IsReady at hready
    constructor <;> intro hidle <;> rw [hidle] at hready <;> exact hready
  obtain ⟨answer, hanswer, hnone⟩ := Wait.exists_admits hwait.1 hwait.2
  have hadmits : c.trial.Admits role answer := by
    cases role with
    | coordinator => exact hanswer
    | user id =>
      cases hu : c.trial.users[id]? with
      | none =>
        simp only [Trial.wait, hu, ne_eq, not_true_eq_false, false_and] at hwait
      | some u =>
        simp only [Trial.wait, hu] at hanswer
        exact ⟨u, hu, .answered hanswer⟩
  have hprompt : c.IsPrompt answer role := by
    cases role with
    | coordinator => trivial
    | user id => exact fun _ _ snapshot _ hok => absurd hok (hnone snapshot)
  exact ⟨.act role (.onLine c.time) answer, hadmits, Moment.isReadable_onLine c.time, rfl,
    .inr hready, hprompt⟩

/-- If no task is ready or called, time may pass to the end of the first pause. -/
theorem exists_pass (hidle : ∀ role, ¬c.IsReady role ∧ ¬c.IsCalled role)
    (hpauses : c.Pauses role) : ∃ time, timeline.Allows c (.pass time) := by
  obtain ⟨first, hfirst, hleast⟩ :=
    (measure c.due).wf.has_min {other | c.Pauses other} ⟨role, hpauses⟩
  refine ⟨c.due first, hidle, ⟨first, hfirst, rfl⟩, ?_⟩
  intro other hother
  exact Nat.le_of_not_lt (hleast other hother)

/-- No signal comes to the users of a trial on time. -/
theorem OnTime.not_isCalled (hontime : c.OnTime s limit) (role : Role) : ¬c.IsCalled role := by
  cases role with
  | coordinator => exact id
  | user id =>
    rintro ⟨u, hu, hinterrupted⟩
    have hadmits : u.Admits s .interrupted := .interrupted hinterrupted
    have hbusy := Trial.allOver_eq_false hu hadmits.isOver_eq_false
    obtain ⟨_, _, hpunctual⟩ := hontime.exists_isPunctual hbusy
    exact hadmits.ne_interrupted (hpunctual id u hu).1 rfl

/-- The coordinator of a trial on time is ready or pauses, unless it is over. -/
theorem OnTime.isReady_or_pauses (hontime : c.OnTime s limit) (htimed : s.IsTimed limit)
    (hsettings : c.trial.settings = s) (hover : ∀ result, c.trial.phase ≠ .over result)
    (hcrashed : ∀ crash, c.trial.phase ≠ .crashed crash) :
    c.IsReady .coordinator ∨ c.Pauses .coordinator := by
  cases hontime with
  | preparing hphase =>
    simp only [IsReady, Pauses, Trial.wait, Trial.coordinatorWait]
    cases hbefore : c.trial.phase with
    | idle | creating => exact .inl trivial
    | scaling readiness =>
      rw [hbefore] at hphase
      cases readiness with
      | pausing census => exact .inr ⟨_, rfl⟩
      | fetching => exact .inl trivial
      | «over» => exact absurd rfl hphase
    | launching | joining | stopping | deleting | «over» | crashed =>
      rw [hbefore] at hphase
      exact hphase.elim
  | launching hphase =>
    exact .inr ⟨startPause, by simp only [Trial.wait, Trial.coordinatorWait, hphase]⟩
  | joining hphase =>
    cases hbusy : c.trial.allOver with
    | true =>
      simp only [IsReady, Trial.wait, Trial.coordinatorWait, hphase, hbusy]
      exact .inl trivial
    | false => exact .inr (pauses_of_joining htimed hsettings hphase hbusy)
  | concluded hphase =>
    cases hbefore : c.trial.phase with
    | deleting =>
      simp only [IsReady, Trial.wait, Trial.coordinatorWait, hbefore]
      exact .inl trivial
    | «over» result => exact absurd hbefore (hover result)
    | idle | creating | scaling | launching | joining | stopping | crashed =>
      rw [hbefore] at hphase
      exact hphase.elim
  | @crashed crash hphase => exact absurd hphase (hcrashed crash)

/-- Something may come to a trial on time until it is over. -/
theorem OnTime.exists_allows (hontime : c.OnTime s limit) (htimed : s.IsTimed limit)
    (hsettings : c.trial.settings = s) (hover : ∀ result, c.trial.phase ≠ .over result)
    (hcrashed : ∀ crash, c.trial.phase ≠ .crashed crash) : ∃ cue, timeline.Allows c cue := by
  by_cases hready : ∃ role, c.IsReady role
  · obtain ⟨role, hready⟩ := hready
    exact exists_allows_of_isReady hready
  · have hidle (role : Role) : ¬c.IsReady role ∧ ¬c.IsCalled role :=
      ⟨fun hrole => hready ⟨role, hrole⟩, hontime.not_isCalled role⟩
    rcases hontime.isReady_or_pauses htimed hsettings hover hcrashed with hcoordinator | hpauses
    · exact absurd hcoordinator (hidle .coordinator).1
    · obtain ⟨time, hallows⟩ := exists_pass hidle hpauses
      exact ⟨.pass time, hallows⟩

/-- All users that have been started are over when the time of a trial and its grace period are,
counted from the pause behind the last start. -/
theorem OnTime.allOver_of_late (hontime : c.OnTime s limit) (htimed : s.IsTimed limit)
    (hwaits : s.crowd.maxWait ≤ gracePeriod + startPause)
    (hlength : c.trial.users.length ≤ s.crowd.users)
    (hlate : c.trial.startedAt.nanos + s.crowd.users * startPause.nanos + limit.nanos +
      gracePeriod.nanos ≤ c.time) : c.trial.allOver = true := by
  cases hbusy : c.trial.allOver with
  | true => rfl
  | false =>
    obtain ⟨last, hlast, hpunctual⟩ := hontime.exists_isPunctual hbusy
    have htime := hpunctual.time_lt_of_busy hbusy htimed.limit_pos
    have hstarts : startsUntil c.trial ≤
        c.trial.startedAt.nanos + s.crowd.users * startPause.nanos :=
      Nat.add_le_add_left (Nat.mul_le_mul_right _ hlength) _
    have hwaits : s.crowd.maxWait.nanos ≤ gracePeriod.nanos + startPause.nanos := hwaits
    omega

/-- A trial on time does not cut its users short. -/
theorem OnTime.phase_ne_stopping (hontime : c.OnTime s limit) : c.trial.phase ≠ .stopping := by
  intro hstopping
  cases hontime with
  | preparing hphase | concluded hphase =>
    rw [hstopping] at hphase
    exact hphase
  | launching hphase | joining hphase | crashed hphase =>
    rw [hstopping] at hphase
    cases hphase

/-- A trial on time that has concluded with users has reported. -/
theorem OnTime.isSome_report (hontime : c.OnTime s limit) (hconcluded : c.trial.phase.IsConcluded)
    (hbegun : c.trial.users ≠ []) : c.trial.report.isSome = true := by
  cases hontime with
  | preparing _ husers => exact absurd husers hbegun
  | concluded _ _ hreported => exact hreported.resolve_left hbegun
  | launching hphase | joining hphase | crashed hphase =>
    rw [hphase] at hconcluded
    exact hconcluded.elim

/-- On a time line a trial stays on course unless it crashes. -/
theorem isOnCourse_of_run (htimed : s.IsTimed limit)
    (hwaits : s.crowd.maxWait ≤ gracePeriod + startPause)
    (hrun : timeline.Run (create s) history c)
    (hcrashed : ∀ crash, c.trial.phase ≠ .crashed crash) :
    Trial.IsOnCourse (acts history) c.trial := by
  induction hrun with
  | nil => trivial
  | @snoc history c cue hrun hallows ih =>
    have hontime := onTime_of_run htimed hwaits (hrun.snoc hallows)
    have hmove := move_perform hrun hallows
    generalize timeline.perform cue c = c' at hontime hmove hcrashed
    cases hmove with
    | @coordinator m answer hadmits =>
      have hbefore := Trial.phase_ne_crashed hadmits
      have hsettled := Trial.isSettled_of_run (run_acts hrun)
      have hrobust := Trial.robust_of_run htimed.sound (run_acts hrun)
      have hlength : c.trial.users.length ≤ c.trial.settings.crowd.users := by
        rw [hrobust.settings]
        exact hrobust.length
      have hmoves := Trial.move_resumeCoordinator (m := m) hadmits
      rw [acts_concat_act]
      exact (ih hbefore).coordinate hsettled hlength hmoves hontime.phase_ne_stopping hcrashed
    | user =>
      rw [acts_concat_act]
      exact (ih hcrashed).concat _ rfl rfl List.length_set rfl
    | pass =>
      rw [acts_concat_pass]
      exact ih hcrashed

/-- What holds at every time of a time line whose trial is limited by its time alone. -/
structure Completes (s : Settings) (limit : Duration) (history : List (Scene TimedTrial TimedCue))
    (c : TimedTrial) : Prop where
  /-- All users are over when the time of the trial and its grace period are, counted from the end
  of the pause behind the last start. -/
  finished : c.trial.startedAt.nanos + s.crowd.users * startPause.nanos + limit.nanos +
    gracePeriod.nanos ≤ c.time → c.trial.allOver = true
  /-- The users are not told to stop. -/
  uncut : c.trial.phase ≠ .stopping
  /-- A trial that has begun with its users ends with all of them over, and ends well; only the
  deletion of the fleet may fail. -/
  ended : ∀ result, c.trial.phase = .over result → c.trial.users ≠ [] →
    c.trial.allOver = true ∧ c.trial.users.length = s.crowd.users ∧
      (result = .ok () ∨ ∃ e, result = .error e ∧ Trial.FailsToDelete (acts history) e)
  /-- The trial crashes for nothing but attempts that outgrow the word that counts them. -/
  crashed : ∀ crash, c.trial.phase = .crashed crash → Text.maxWord64 < c.trial.attemptsMade
  /-- Until it is over, something may come to the trial. -/
  progress : (∀ result, c.trial.phase ≠ .over result) →
    (∀ crash, c.trial.phase ≠ .crashed crash) → ∃ cue, timeline.Allows c cue
  /-- Once there are users that think at all, the trial does not go on for ever. -/
  brief : 0 < s.crowd.minWait.millis → c.trial.users ≠ [] → ∀ later c', timeline.Run c later c' →
    later.length ≤ 2 * (s.crowd.users * (3 * s.rounds limit.nanos + 2) + 3) + 1

/-- A trial with checked settings that is limited by its time alone, and whose think times are not
longer than the grace period and the pause behind the start of a user, completes: whatever its
users draw and its control plane answers, no user is late, and the trial does not fail for its
users. -/
theorem completes_if_waits_are_short (hcheck : s.check = .ok ())
    (hextent : s.extent = ⟨some limit, none⟩)
    (hwaits : s.crowd.maxWait ≤ gracePeriod + startPause)
    (hrun : timeline.Run (create s) history c) : Completes s limit history c := by
  have hfit : s.crowd.maxWait.millis ≤ Text.maxWord64 :=
    Nat.le_trans (Nat.div_le_div_right hwaits) (by decide)
  have htimed : s.IsTimed limit := Settings.isTimed_of_check hcheck hextent hfit
  have hontime := onTime_of_run htimed hwaits hrun
  have hsettings := settings_of_timed_run hrun
  have hrobust := Trial.robust_of_run htimed.sound (run_acts hrun)
  constructor
  case finished => exact hontime.allOver_of_late htimed hwaits hrobust.length
  case uncut => exact hontime.phase_ne_stopping
  case ended =>
    intro result hphase hbegun
    have hconcluded : c.trial.phase.IsConcluded := by
      rw [hphase]
      trivial
    have hreported := hontime.isSome_report hconcluded hbegun
    have hcourse := isOnCourse_of_run htimed hwaits hrun (by rw [hphase]; nofun)
    obtain ⟨hover, _⟩ := Trial.isSettled_of_run (run_acts hrun) hreported
    obtain ⟨hall, hwaited⟩ := hcourse.waited_of_reported hreported hconcluded
    rw [hsettings] at hall
    refine ⟨hover, hall, ?_⟩
    rw [hphase] at hwaited
    rcases hwaited with hdeleting | hwell | ⟨e, hfailed, hfails⟩
    · cases hdeleting
    · cases hwell
      exact .inl rfl
    · cases hfailed
      exact .inr ⟨e, rfl, hfails⟩
  case crashed => exact hrobust.crashed
  case progress => exact hontime.exists_allows htimed hsettings
  case brief =>
    intro hthinks hbegun later c' hlater
    exact length_le_of_begun htimed hwaits hthinks hrun hbegun hlater

end TimedTrial

/-- The settings of a trial of one second with one user that always thinks for the same time. -/
def Settings.musing (wait : Duration) : Settings :=
  { small 1 1 with crowd := ⟨1, wait, wait⟩, extent := ⟨some (.ofSecs 1), none⟩ }

namespace TimedTrial

/-- While the coordinator of a trial and its only user pause, time may pass to the end of the first
of their pauses. -/
theorem allows_pass {u : User} {time : Nat} (husers : c.trial.users = [u])
    (hquiet : u.signals = 0) (hcoordinator : c.Pauses .coordinator) (huser : c.Pauses (.user 0))
    (hlater : c.time < time) (hfirst : min (c.due .coordinator) (c.due (.user 0)) = time) :
    timeline.Allows c (.pass time) := by
  have hnobody (id : Nat) : c.trial.users[id + 1]? = none := by
    rw [husers]
    rfl
  refine ⟨?_, ?_, ?_⟩
  · rintro (_ | _ | id)
    · refine ⟨?_, nofun⟩
      rw [hcoordinator.isReady_iff]
      omega
    · refine ⟨?_, ?_⟩
      · rw [huser.isReady_iff]
        omega
      · rintro ⟨v, hv, hinterrupted⟩
        rw [husers] at hv
        cases hv
        simp only [User.isInterrupted, hquiet, Nat.lt_irrefl, decide_false, Bool.and_false,
          Bool.false_eq_true] at hinterrupted
    · refine ⟨?_, ?_⟩
      · simp only [IsReady, Trial.wait, hnobody, not_false_eq_true]
      · rintro ⟨v, hv, _⟩
        rw [hnobody] at hv
        cases hv
  · rcases Nat.le_total (c.due .coordinator) (c.due (.user 0)) with hle | hle
    · exact ⟨.coordinator, hcoordinator, by omega⟩
    · exact ⟨.user 0, huser, by omega⟩
  · rintro (_ | _ | id) hpauses
    · omega
    · omega
    · obtain ⟨span, hwait⟩ := hpauses
      simp only [Trial.wait, hnobody] at hwait
      cases hwait

/-- A user that muses for the grace period and the pause behind its start is not late. -/
theorem completes_if_user_muses_for_grace :
    ∃ history c, timeline.Run (create (.musing (gracePeriod + startPause))) history c ∧
      c.trial.phase = .over (.ok ()) ∧
      Completes (.musing (gracePeriod + startPause)) (.ofSecs 1) history c := by
  have hreadable := Moment.isReadable_onLine
  have hallows : timeline.AllowsAll (create (.musing (gracePeriod + startPause)))
      [.act .coordinator (.onLine 0) .go, .act (.user 0) (.onLine 0) .go,
        .act (.user 0) (.onLine 0) (.reply (.ok (.withReady "link" 1))),
        .act (.user 0) (.onLine 0) (.reply (.ok (.inState "allocation" "Allocated"))),
        .pass 10000000, .act .coordinator (.onLine 10000000) .go, .pass 30010000000,
        .act (.user 0) (.onLine 30010000000) .go,
        .act .coordinator (.onLine 30010000000) .go] := by
    refine ⟨⟨.turn, hreadable _, rfl, .inr trivial, trivial⟩,
      ⟨⟨_, rfl, .answered .turn⟩, hreadable _, rfl, .inr trivial, nofun⟩,
      ⟨⟨_, rfl, .answered (.replied _ _)⟩, hreadable _, rfl, .inr trivial, nofun⟩,
      ⟨⟨_, rfl, .answered (.replied _ _)⟩, hreadable _, rfl, .inr trivial, ?_⟩,
      allows_pass rfl rfl ⟨_, rfl⟩ ⟨_, rfl⟩ (by decide) rfl,
      ⟨.rested _, hreadable _, rfl, .inr (Nat.le_refl _), trivial⟩,
      allows_pass rfl rfl ⟨_, rfl⟩ ⟨_, rfl⟩ (by decide) rfl,
      ⟨⟨_, rfl, .answered (.rested _)⟩, hreadable _, rfl, .inr (Nat.le_refl _), nofun⟩,
      ⟨.turn, hreadable _, rfl, .inr trivial, trivial⟩, trivial⟩
    rintro _ _ _ _ ⟨rfl⟩
    exact .inl rfl
  obtain ⟨history, c, hrun, hover⟩ : ∃ history c,
      timeline.Run (create (.musing (gracePeriod + startPause))) history c ∧
        c.trial.phase = .over (.ok ()) :=
    ⟨_, _, .of_allowsAll hallows, rfl⟩
  exact ⟨history, c, hrun, hover, completes_if_waits_are_short rfl rfl (Nat.le_refl _) hrun⟩

/-- A user that muses for a minute is late, and the trial fails for it although its settings pass
their check and every request is answered at once and well. -/
theorem cut_short_if_user_muses_for_minute :
    (Settings.musing (.ofSecs 60)).check = .ok () ∧
      (Settings.musing (.ofSecs 60)).extent = ⟨some (.ofSecs 1), none⟩ ∧
      ∃ history c, timeline.Run (create (.musing (.ofSecs 60))) history c ∧
        (∀ scene ∈ history, ∀ role m e, scene.cue ≠ .act role m (.reply (.error e))) ∧
        c.trial.phase = .over (.error (.timedOut .usersFinished (.ofSecs 31))) := by
  have hreadable := Moment.isReadable_onLine
  have hallows : timeline.AllowsAll (create (.musing (.ofSecs 60)))
      [.act .coordinator (.onLine 0) .go, .act (.user 0) (.onLine 0) .go,
        .act (.user 0) (.onLine 0) (.reply (.ok (.withReady "link" 1))),
        .act (.user 0) (.onLine 0) (.reply (.ok (.inState "allocation" "Allocated"))),
        .pass 10000000, .act .coordinator (.onLine 10000000) .go, .pass 31010000000,
        .act .coordinator (.onLine 31010000000) .go,
        .act (.user 0) (.onLine 31010000000) .interrupted,
        .act .coordinator (.onLine 31010000000) .go] := by
    refine ⟨⟨.turn, hreadable _, rfl, .inr trivial, trivial⟩,
      ⟨⟨_, rfl, .answered .turn⟩, hreadable _, rfl, .inr trivial, nofun⟩,
      ⟨⟨_, rfl, .answered (.replied _ _)⟩, hreadable _, rfl, .inr trivial, nofun⟩,
      ⟨⟨_, rfl, .answered (.replied _ _)⟩, hreadable _, rfl, .inr trivial, ?_⟩,
      allows_pass rfl rfl ⟨_, rfl⟩ ⟨_, rfl⟩ (by decide) rfl,
      ⟨.rested _, hreadable _, rfl, .inr (Nat.le_refl _), trivial⟩,
      allows_pass rfl rfl ⟨_, rfl⟩ ⟨_, rfl⟩ (by decide) rfl,
      ⟨.rested _, hreadable _, rfl, .inr (Nat.le_refl _), trivial⟩,
      ⟨⟨_, rfl, .interrupted rfl⟩, hreadable _, rfl, .inl rfl, nofun⟩,
      ⟨.turn, hreadable _, rfl, .inr trivial, trivial⟩, trivial⟩
    rintro _ _ _ _ ⟨rfl⟩
    exact .inl rfl
  refine ⟨rfl, rfl, _, _, .of_allowsAll hallows, ?_, rfl⟩
  exact timeline.forall_cue_scenes
    (P := fun cue => ∀ role m e, cue ≠ .act role m (.reply (.error e))) _ (by simp)

end TimedTrial

end FleetTrial
