import FleetTrial.Proofs.Trial.Phases

/-!
# What becomes of the fleet

A trial that has created its fleet and is to delete it does so exactly once, whether its users have
finished or were cut off, and whether or not the deletion succeeds. A trial whose setup fails is
over there and then: it leaves the fleet behind, even if it has created the fleet itself.
-/

namespace FleetTrial

/-- The settings of a small trial that waits for its fleet for a second. -/
def Settings.hurried : Settings :=
  { furnishing 1 1 with polling := ⟨none, some (.ofSecs 1), .zero⟩ }

namespace Trial

variable {s : Settings} {t t' : Trial} {m : Moment} {answer : Answer}
  {history : List (Scene Trial TrialCue)} {scene : Scene Trial TrialCue} {e : TrialError}

/-- The deletions that are requested in some scenes, in order, each with the task that does so. -/
def deletions (history : List (Scene Trial TrialCue)) : List (Role × Request) :=
  (requests history).filter fun r => r.2.verb = .delete

/-- Whether the setup of the fleet has failed in one of some scenes. -/
def SetupFails (s : Settings) (history : List (Scene Trial TrialCue)) : Prop :=
  ∃ earlier scene later e, history = earlier ++ scene :: later ∧ FailsSetup s earlier scene e

/-- One more request is made behind the deletions, and is one of them or not. -/
theorem deletions_concat (history : List (Scene Trial TrialCue)) (scene : Scene Trial TrialCue) :
    deletions (history ++ [scene]) =
      deletions history ++ (requestIn scene).toList.filter fun r => r.2.verb = .delete := by
  rw [deletions, requests_concat, List.filter_append, ← deletions]

/-- A scene in which nothing is deleted adds no deletion. -/
theorem deletions_concat_of_kept (hkept : ∀ r ∈ requestIn scene, r.2.verb ≠ .delete) :
    deletions (history ++ [scene]) = deletions history := by
  rw [deletions_concat, List.filter_eq_nil_iff.mpr, List.append_nil]
  intro r hr hdelete
  exact hkept r (Option.mem_toList.mp hr) (of_decide_eq_true hdelete)

/-- A setup that has failed stays one that has. -/
theorem SetupFails.concat (hfails : SetupFails s history) (scene : Scene Trial TrialCue) :
    SetupFails s (history ++ [scene]) := by
  obtain ⟨earlier, failing, later, e, rfl, hfailing⟩ := hfails
  exact ⟨earlier, failing, later ++ [scene], e, List.append_assoc .., hfailing⟩

/-- A wait for a fleet that is looked at behind its deadline is a setup that fails. -/
theorem Scaling.failsSetup {c : Census} {request : Request} {result : Except TrialError Snapshot}
    (hscaling : Scaling s (history ++ [scene]) c) (hexpired : c.deadline.expired m.now = true)
    (hreply : replyIn scene = some (request, m, result))
    (hgoing : request = creation s ∨
      ∃ path snapshot, request = .fetch path ∧ result = .ok snapshot) :
    FailsSetup s history scene (c.overdue m.now) := by
  obtain ⟨began, created, later, hreplies, hhandle, hstart, _⟩ := hscaling.answers
  have hbegan : (creation s, began, created) ∈ replies (history ++ [scene]) := by
    rw [hreplies]
    exact List.mem_cons_self
  have hunready := hscaling.unready
  rw [hscaling.lastSeen, hscaling.target] at hunready
  obtain ⟨limit, hlimit, hpassed⟩ := Deadline.expired_iff.mp hexpired
  rw [hscaling.limit] at hlimit
  rw [Deadline.elapsed, hstart] at hpassed
  rw [Census.overdue, hscaling.target, hscaling.lastSeen, Deadline.elapsed, hstart]
  exact .late hreply hgoing hbegan hhandle hunready hlimit hpassed

/-- A trial that goes on to wait for its fleet ends only if its setup fails. -/
theorem failsSetup_of_awaitFleet {c : Census} {request : Request}
    {result : Except TrialError Snapshot} (hscaling : Scaling s (history ++ [scene]) c)
    (hreply : replyIn scene = some (request, m, result))
    (hgoing : request = creation s ∨
      ∃ path snapshot, request = .fetch path ∧ result = .ok snapshot)
    (hover : (t.awaitFleet m (c.next m.now)).phase = .over (.error e)) :
    FailsSetup s history scene e := by
  rcases c.next_cases m.now with ⟨hexpired, hnext⟩ | ⟨_, hnext | hnext⟩ <;> rw [hnext] at hover
  · cases hover
    exact hscaling.failsSetup hexpired hreply hgoing
  · cases hover
  · cases hover

/-- A trial that starts a user or finds none left is not over. -/
theorem phase_launch_ne_over (t : Trial) (result : Except TrialError Unit) :
    t.launch.phase ≠ .over result := by
  unfold launch
  split <;> nofun

/-- A trial ends before it has started all its users only if its setup fails. -/
theorem Course.failsSetup (hcourse : Course s history t) (hsetup : s.fleet.setup = true)
    (hsettings : t.settings = s) (hadmits : t.coordinatorWait.Admits answer)
    (hstarting : t.phase.IsStarting)
    (hover : (t.resumeCoordinator m answer).phase = .over (.error e)) :
    FailsSetup s history ⟨t, .answer .coordinator m answer⟩ e := by
  cases hcourse with
  | idle hphase =>
    simp only [coordinatorWait, hphase] at hadmits
    cases hadmits
    simp only [resumeCoordinator, hphase, hsettings, hsetup, if_true] at hover
    cases hover
  | creating hphase _ _ hreplies =>
    simp only [coordinatorWait, hphase] at hadmits
    cases hadmits with
    | replied _ result =>
      have hreply := replyIn_creating (m := m) hphase hsettings result
      simp only [resumeCoordinator, hphase] at hover
      rcases created_cases t m result with
        ⟨e', rfl, hconflict, hcreated⟩ | ⟨handle, hhandle, hcreated⟩ <;> rw [hcreated] at hover
      · cases hover
        exact .uncreated hreply hconflict
      · rw [hsettings] at hhandle
        have hscaling := scaling_of_created (m := m) hreplies hsettings hphase hhandle
        simp only [awaitHandle, Readiness.start, hsettings] at hover
        exact failsSetup_of_awaitFleet hscaling hreply (.inl rfl) hover
  | @scaling c _ hphase hreadiness _ _ hscaling =>
    rcases hreadiness with rfl | rfl
    · simp only [coordinatorWait, hphase] at hadmits
      cases hadmits
      simp only [resumeCoordinator, hphase, Readiness.resume, awaitFleet] at hover
      cases hover
    · simp only [coordinatorWait, hphase] at hadmits
      cases hadmits with
      | replied _ result =>
        have hreply := replyIn_fetching (m := m) hphase result
        cases result with
        | error e' =>
          simp only [resumeCoordinator, hphase, Readiness.resume, awaitFleet] at hover
          cases hover
          exact .unfetched hreply
        | ok snapshot =>
          by_cases hready : (c.see snapshot).lastSeen = some c.target
          · simp only [resumeCoordinator, hphase, Readiness.resume, if_pos hready, awaitFleet]
              at hover
            exact absurd hover (phase_launch_ne_over _ _)
          · simp only [resumeCoordinator, hphase, Readiness.resume, if_neg hready] at hover
            exact failsSetup_of_awaitFleet (hscaling.see hphase hready) hreply
              (.inr ⟨_, _, rfl, rfl⟩) hover
  | failed hphase =>
    rw [hphase] at hstarting
    exact hstarting.elim
  | working hbeyond =>
    cases hphase : t.phase with
    | launching =>
      simp only [coordinatorWait, hphase] at hadmits
      cases hadmits
      simp only [resumeCoordinator, hphase] at hover
      exact absurd hover (phase_launch_ne_over _ _)
    | idle | creating | scaling =>
      rw [hphase] at hbeyond
      exact hbeyond.elim
    | joining | stopping | deleting | «over» | crashed =>
      rw [hphase] at hstarting
      exact hstarting.elim

/-- What has become of the fleet of a trial that is to delete it. -/
inductive Disposes (s : Settings) (history : List (Scene Trial TrialCue)) (t : Trial) : Prop
  | pending (hworking : ¬t.phase.IsConcluded) (hdeletions : deletions history = [])
  | abandoned {e : TrialError} (hphase : t.phase = .over (.error e))
    (hfails : SetupFails s history) (hdeletions : deletions history = [])
  | deleted (hconcluded : t.phase.IsConcluded) (hreport : t.report.isSome = true)
    (hdeletions : deletions history = [(.coordinator, .delete s.fleetPath)])

/-- A trial that has not concluded has not disposed of its fleet. -/
theorem Disposes.deletions_eq_nil (hdisposes : Disposes s history t)
    (hworking : ¬t.phase.IsConcluded) : deletions history = [] := by
  cases hdisposes with
  | pending _ hdeletions => exact hdeletions
  | abandoned hphase =>
    rw [hphase] at hworking
    exact absurd trivial hworking
  | deleted hconcluded => exact absurd hconcluded hworking

/-- A scene in which nothing is deleted, and in which the trial keeps its phase and its report. -/
theorem Disposes.concat (hdisposes : Disposes s history t)
    (hkept : ∀ r ∈ requestIn scene, r.2.verb ≠ .delete) (hphase : t'.phase = t.phase)
    (hreport : t'.report = t.report) : Disposes s (history ++ [scene]) t' := by
  have hsame : deletions (history ++ [scene]) = deletions history :=
    deletions_concat_of_kept hkept
  cases hdisposes with
  | pending hworking hdeletions =>
    exact .pending (hphase ▸ hworking) (hsame.trans hdeletions)
  | abandoned hover hfails hdeletions =>
    exact .abandoned (hphase.trans hover) (hfails.concat scene) (hsame.trans hdeletions)
  | deleted hconcluded hreported hdeletions =>
    exact .deleted (hphase ▸ hconcluded) (hreport ▸ hreported) (hsame.trans hdeletions)

/-- The coordinator requests a deletion only when it goes on to delete its fleet. -/
theorem verb_ne_delete_of_phase (hresume : t' = t.resumeCoordinator m answer)
    (hphase : ∀ waited, t'.phase ≠ .deleting waited) :
    ∀ r ∈ requestIn ⟨t, .answer .coordinator m answer⟩, r.2.verb ≠ .delete := by
  rw [requestIn_coordinator hresume]
  intro r hr hverb
  obtain ⟨request, hrequest, rfl⟩ := Option.map_eq_some_iff.mp hr
  cases request with
  | fetch => cases hverb
  | create => cases hverb
  | delete path =>
    obtain ⟨waited, hdeleting⟩ := phase_of_delete hrequest
    exact hphase waited hdeleting

/-- A trial that reports goes on to delete its fleet. -/
theorem disposes_of_conclude {u : Trial} {waited : Except TrialError Unit}
    (hdelete : s.fleet.deleteOnExit = true) (hsettings : u.settings = s)
    (hnone : deletions history = [])
    (hresume : u.conclude m waited = t.resumeCoordinator m answer) :
    Disposes s (history ++ [⟨t, .answer .coordinator m answer⟩]) (u.conclude m waited) := by
  rcases conclude_eq (t := u) (m := m) waited with ⟨crash, heq⟩ | ⟨report, heq⟩ <;>
    rw [heq] at hresume ⊢
  · refine .pending id ?_
    rw [deletions_concat_of_kept (verb_ne_delete_of_phase hresume nofun), hnone]
  · simp only [hsettings, hdelete, if_true] at hresume ⊢
    refine .deleted trivial rfl ?_
    rw [deletions_concat, hnone, requestIn_coordinator hresume]
    simp only [coordinatorWait]
    rfl

/-- A trial that goes on without concluding has not disposed of its fleet. -/
theorem Disposes.continues (hdisposes : Disposes s history t)
    (hresume : t' = t.resumeCoordinator m answer) (hbefore : ¬t.phase.IsConcluded)
    (hafter : ¬t'.phase.IsConcluded) :
    Disposes s (history ++ [⟨t, .answer .coordinator m answer⟩]) t' := by
  have hkept : ∀ waited, t'.phase ≠ .deleting waited := by
    intro waited hdeleting
    exact hafter (hdeleting ▸ trivial)
  refine .pending hafter ?_
  rw [deletions_concat_of_kept (verb_ne_delete_of_phase hresume hkept)]
  exact hdisposes.deletions_eq_nil hbefore

/-- A trial that has requested the deletion of its fleet ends, and requests it no more. -/
theorem Disposes.ends {waited result : Except TrialError Unit} (hdisposes : Disposes s history t)
    (hphase : t.phase = .deleting waited)
    (hresume : { t with phase := .over result } = t.resumeCoordinator m answer) :
    Disposes s (history ++ [⟨t, .answer .coordinator m answer⟩])
      { t with phase := .over result } := by
  cases hdisposes with
  | pending hworking =>
    rw [hphase] at hworking
    exact absurd trivial hworking
  | abandoned hover =>
    rw [hphase] at hover
    cases hover
  | deleted _ hreport hdeletions =>
    refine .deleted trivial hreport ?_
    rw [deletions_concat_of_kept (verb_ne_delete_of_phase hresume nofun), hdeletions]

/-- The coordinator disposes of the fleet when it concludes, and not again. -/
theorem Disposes.coordinate (hdisposes : Disposes s history t) (hcourse : Course s history t)
    (hsetup : s.fleet.setup = true) (hdelete : s.fleet.deleteOnExit = true)
    (hsettings : t.settings = s) (hadmits : t.coordinatorWait.Admits answer)
    (hresume : t' = t.resumeCoordinator m answer) (hmove : Move m t answer t') :
    Disposes s (history ++ [⟨t, .answer .coordinator m answer⟩]) t' := by
  cases hmove with
  | prepared hbefore hafter =>
    have hnone := hdisposes.deletions_eq_nil hbefore.not_isConcluded
    rcases hafter with hstarting | ⟨e, rfl⟩
    · exact hdisposes.continues hresume hbefore.not_isConcluded hstarting.not_isConcluded
    · -- before it has started all its users, only its setup can end a trial
      have hfails := hcourse.failsSetup (m := m) (e := e) hsetup hsettings hadmits hbefore
        (hresume ▸ rfl)
      refine .abandoned rfl ⟨history, _, [], e, rfl, hfails⟩ ?_
      rw [deletions_concat_of_kept (verb_ne_delete_of_phase hresume nofun), hnone]
  | launched _ hbefore | gathered _ hbefore =>
    exact hdisposes.continues hresume hbefore.not_isConcluded id
  | alarmed hphase => exact hdisposes.continues hresume (hphase ▸ id) id
  | concluded hphase | cutOff hphase =>
    have hnone := hdisposes.deletions_eq_nil (hphase ▸ id)
    exact disposes_of_conclude hdelete hsettings hnone hresume
  | deleted hphase | undeleted hphase => exact hdisposes.ends hphase hresume

/-- No user deletes anything. -/
theorem verb_ne_delete_of_user {id : Nat} {u u' : User} {entry : Entry}
    (hu : t.users[id]? = some u) (hresume : t.withUser id entry u' = t.resumeUser m answer id) :
    ∀ r ∈ requestIn ⟨t, .answer (.user id) m answer⟩, r.2.verb ≠ .delete := by
  rw [requestIn_user hu hresume]
  intro r hr hverb
  obtain ⟨request, hrequest, rfl⟩ := Option.map_eq_some_iff.mp hr
  rcases User.request_cases hrequest with ⟨path, rfl⟩ | rfl
  · cases hverb
  · cases hverb

/-- Every run disposes of the fleet if it is to do so. -/
theorem disposes_of_run (hsetup : s.fleet.setup = true) (hdelete : s.fleet.deleteOnExit = true)
    (hrun : system.Run (create s) history t) : Disposes s history t := by
  have hall : Course s history t ∧ Disposes s history t := by
    refine induction_of_run (P := fun history t => Course s history t ∧ Disposes s history t) hrun
      ⟨.idle rfl ⟨rfl, rfl, rfl, nofun⟩ rfl rfl, .pending id rfl⟩ ?_ ?_ ?_
    · rintro history t t' m answer ⟨hcourse, hdisposes⟩ hsettings _ hadmits hresume hmove
      refine ⟨?_, hdisposes.coordinate hcourse hsetup hdelete hsettings hadmits hresume hmove⟩
      rw [hresume]
      exact hcourse.coordinate hsetup hsettings hadmits
    · rintro history t m answer unix id u u' ⟨hcourse, hdisposes⟩ hsettings _ hu _ _ hresume
      exact ⟨hcourse.work hsettings hu hresume,
        hdisposes.concat (verb_ne_delete_of_user hu hresume) rfl rfl⟩
    · rintro history t ⟨hcourse, hdisposes⟩ _ _
      exact ⟨hcourse.signal, hdisposes.concat nofun rfl rfl⟩
  exact hall.2

/-- A trial that is to delete its fleet and has ended has done so exactly once if its setup has
succeeded, whatever its users did and however the deletion ended; if its setup has failed it has
deleted nothing. -/
theorem deletes_once_unless_setup_fails {result : Except TrialError Unit}
    (hsetup : s.fleet.setup = true) (hdelete : s.fleet.deleteOnExit = true)
    (hrun : system.Run (create s) history t) (hover : t.phase = .over result) :
    (SetupFails s history → deletions history = [] ∧ ∃ e, result = .error e) ∧
      (¬SetupFails s history →
        deletions history = [(.coordinator, .delete s.fleetPath)]) := by
  cases disposes_of_run hsetup hdelete hrun with
  | pending hworking =>
    rw [hover] at hworking
    exact absurd trivial hworking
  | @abandoned e hphase hfails hdeletions =>
    rw [hover] at hphase
    cases hphase
    exact ⟨fun _ => ⟨hdeletions, e, rfl⟩, absurd hfails⟩
  | deleted _ hreport hdeletions =>
    refine ⟨?_, fun _ => hdeletions⟩
    rintro ⟨earlier, scene, later, e, rfl, hfails⟩
    rw [(isAbandoned_of_fails hsetup hrun hfails).report] at hreport
    cases hreport

/-- A fleet scales, one user makes one attempt, and the fleet is deleted once although the control
plane refuses to. -/
theorem deletes_once_although_refused :
    ∃ history t, system.Run (create (.furnishing 1 1)) history t ∧
      t.phase = .over (.error (.rejected 403 "")) ∧ ¬SetupFails (.furnishing 1 1) history ∧
      deletions history = [(.coordinator, .delete (Settings.furnishing 1 1).fleetPath)] := by
  have hmoment := Moment.isReadable_origin
  have hallows : system.AllowsAll (create (.furnishing 1 1))
      [.answer .coordinator .origin .go,
        .answer .coordinator .origin (.reply (.ok (.pending "link"))),
        .answer .coordinator .origin (.reply (.ok (.withReady "link" 1))),
        .answer (.user 0) .origin .go,
        .answer (.user 0) .origin (.reply (.ok (.withReady "link" 1))),
        .answer (.user 0) .origin (.reply (.ok (.inState "allocation" "Allocated"))),
        .answer .coordinator .origin .go, .answer .coordinator .origin .go,
        .answer .coordinator .origin (.reply (.error (.rejected 403 "")))] :=
    ⟨⟨hmoment, .turn⟩, ⟨hmoment, .replied _ _⟩, ⟨hmoment, .replied _ _⟩,
      ⟨hmoment, _, rfl, .answered .turn⟩, ⟨hmoment, _, rfl, .answered (.replied _ _)⟩,
      ⟨hmoment, _, rfl, .answered (.replied _ _)⟩, ⟨hmoment, .rested _⟩, ⟨hmoment, .turn⟩,
      ⟨hmoment, .replied _ _⟩, trivial⟩
  obtain ⟨history, t, hrun, hover, hlength⟩ : ∃ history t,
      system.Run (create (.furnishing 1 1)) history t ∧
        t.phase = .over (.error (.rejected 403 "")) ∧ (deletions history).length = 1 :=
    ⟨_, _, .of_allowsAll hallows, rfl, rfl⟩
  obtain ⟨hnone, honce⟩ := deletes_once_unless_setup_fails rfl rfl hrun hover
  have hset : ¬SetupFails (.furnishing 1 1) history := by
    intro hfails
    rw [(hnone hfails).1] at hlength
    cases hlength
  exact ⟨history, t, hrun, hover, hset, honce hset⟩

/-- A fleet that has been created and is to be deleted is left behind if it does not scale within a
second, and if it cannot be fetched. -/
theorem leaves_created_fleet_behind :
    (Settings.hurried.fleet.setup = true ∧ Settings.hurried.fleet.deleteOnExit = true) ∧
    (∃ history t, system.Run (create .hurried) history t ∧
      (creation .hurried, .origin, .ok (.pending "link")) ∈ replies history ∧
      t.phase = .over (.error (.timedOut (.fleetReady 1 (some 0)) (.ofSecs 1))) ∧
      deletions history = []) ∧
    ∃ history t, system.Run (create .hurried) history t ∧
      (creation .hurried, .origin, .ok (.pending "link")) ∈ replies history ∧
      t.phase = .over (.error (.rejected 500 "")) ∧ deletions history = [] := by
  have hmoment := Moment.isReadable_origin
  refine ⟨⟨rfl, rfl⟩, ?_, ?_⟩
  · have hallows : system.AllowsAll (create .hurried)
        [.answer .coordinator .origin .go,
          .answer .coordinator .origin (.reply (.ok (.pending "link"))),
          .answer .coordinator ⟨⟨1000000000⟩, ⟨1000000000⟩, .ok 1, .ok 1, .ofSecs 1, 0⟩
            (.reply (.ok (.withReady "link" 0)))] :=
      ⟨⟨hmoment, .turn⟩, ⟨hmoment, .replied _ _⟩, ⟨⟨(1, 1), rfl, rfl⟩, .replied _ _⟩, trivial⟩
    exact ⟨_, _, .of_allowsAll hallows, .head _, rfl, rfl⟩
  · have hallows : system.AllowsAll (create .hurried)
        [.answer .coordinator .origin .go,
          .answer .coordinator .origin (.reply (.ok (.pending "link"))),
          .answer .coordinator .origin (.reply (.error (.rejected 500 "")))] :=
      ⟨⟨hmoment, .turn⟩, ⟨hmoment, .replied _ _⟩, ⟨hmoment, .replied _ _⟩, trivial⟩
    exact ⟨_, _, .of_allowsAll hallows, .head _, rfl, rfl⟩

end Trial

end FleetTrial
