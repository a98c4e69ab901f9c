import FleetTrial.Proofs.Settings.Soundness
import FleetTrial.Proofs.Time.Elapsing
import FleetTrial.Proofs.Trial.Setup

/-!
# The order of the phases

A trial goes through its phases in order. If it sets up its fleet, the creation comes before every
other request, and a fleet that has scaled comes before the first connection and the first
allocation; a setup that fails is all that there is of the trial. The deletion of the fleet, if
there is one, comes behind every other request.
-/

namespace FleetTrial

namespace Trial

variable {s : Settings} {t t' : Trial} {m : Moment} {answer : Answer}
  {history : List (Scene Trial TrialCue)} {scene : Scene Trial TrialCue} {e : TrialError}

/-- The coordinator gets an answer to what it has requested. -/
theorem replyIn_eq_some {cue : TrialCue} {request : Request}
    {result : Except TrialError Snapshot} (hreply : replyIn ⟨t, cue⟩ = some (request, m, result)) :
    cue = .answer .coordinator m (.reply result) ∧
      t.coordinatorWait.request? = some request := by
  unfold replyIn at hreply
  split at hreply
  · rename_i moment answered hcue
    obtain ⟨waited, hwaited, heq⟩ := Option.map_eq_some_iff.mp hreply
    cases heq
    exact ⟨hcue, hwaited⟩
  · cases hreply

/-- A wait for a fleet fails as soon as it is looked at behind its deadline. -/
theorem Scaling.next_eq {c : Census} {began : Moment} {created : Except TrialError Snapshot}
    {limit : Duration} (hscaling : Scaling s history c)
    (hbegan : (creation s, began, created) ∈ replies history)
    (hlimit : s.polling.scaleDeadline = some limit) (hpassed : limit ≤ m.now.since began.now) :
    c.next m.now = .over (.error (.timedOut
      (.fleetReady (UInt64.ofNat s.fleet.replicas) (lastReported history))
      (m.now.since began.now))) := by
  have hstart : c.deadline.start = began.now := by
    obtain ⟨first, result, later, hreplies, _, hstart, hlater⟩ := hscaling.answers
    rw [hreplies] at hbegan
    rcases List.mem_cons.mp hbegan with hfirst | hmem
    · cases hfirst
      exact hstart
    · obtain ⟨path, hpath⟩ := hlater _ hmem
      cases hpath
  have helapsed : c.deadline.elapsed m.now = m.now.since began.now := by
    rw [Deadline.elapsed, hstart]
  rcases c.next_cases m.now with ⟨_, hnext⟩ | ⟨hgoing, _⟩
  · rw [hnext, Census.overdue, hscaling.target, hscaling.lastSeen, helapsed]
  · have hexpired : c.deadline.expired m.now = true :=
      Deadline.expired_iff.mpr ⟨limit, hscaling.limit.trans hlimit, helapsed ▸ hpassed⟩
    cases hgoing.symm.trans hexpired

/-- What the coordinator has requested tells where on its course a trial is: only a trial that
creates its fleet waits for the answer to the creation, and only one that scales waits for that
to a fetch. -/
theorem Course.requested (hcourse : Course s history t) (hsettings : t.settings = s)
    {request : Request} (hrequest : t.coordinatorWait.request? = some request) :
    (request = creation s ∧ t.phase = .creating ∧ IsUntouched history t ∧ HasBegun s history ∧
        replies history = []) ∨
      (∃ c, request = .fetch c.handle ∧ t.phase = .scaling (.fetching c) ∧
        IsUntouched history t ∧ HasBegun s history ∧ Scaling s history c) ∨
      request = .delete s.fleetPath := by
  cases hcourse with
  | idle hphase =>
    simp only [coordinatorWait, hphase] at hrequest
    cases hrequest
  | creating hphase huntouched hbegun hreplies =>
    simp only [coordinatorWait, hphase, hsettings] at hrequest
    cases hrequest
    exact .inl ⟨rfl, hphase, huntouched, hbegun, hreplies⟩
  | @scaling c _ hphase hreadiness huntouched hbegun hscaling =>
    rcases hreadiness with rfl | rfl
    · simp only [coordinatorWait, hphase] at hrequest
      cases hrequest
    · simp only [coordinatorWait, hphase] at hrequest
      cases hrequest
      exact .inr (.inl ⟨c, rfl, hphase, huntouched, hbegun, hscaling⟩)
  | failed hphase =>
    simp only [coordinatorWait, hphase] at hrequest
    cases hrequest
  | working hbeyond =>
    rw [← hsettings]
    exact .inr (.inr (delete_of_request hbeyond hrequest).1)

/-- The creation of a fleet that is refused, other than by a conflict, ends a trial. -/
theorem created_of_uncreated (hconflict : ∀ body, e ≠ .rejected conflictStatus body) :
    t.created m (.error e) = { t with phase := .over (.error e) } := by
  rcases created_cases t m (.error e) with ⟨_, heq, _, hcreated⟩ | ⟨handle, hhandle, _⟩
  · cases heq
    exact hcreated
  · cases hhandle with
    | present body => exact absurd rfl (hconflict body)

/-- A fleet whose deadline passes with its creation ends a trial. -/
theorem created_of_late {handle : String} {began : Moment} {limit : Duration}
    {created result : Except TrialError Snapshot} (hsettings : t.settings = s)
    (hphase : t.phase = .creating) (hnone : replies history = [])
    (hbegan : (creation s, began, created) ∈
      replies (history ++ [⟨t, .answer .coordinator m (.reply result)⟩]))
    (hhandle : IsHandleOf s created handle) (hlimit : s.polling.scaleDeadline = some limit)
    (hpassed : limit ≤ m.now.since began.now) :
    t.created m result = { t with phase := .over (.error (.timedOut
      (.fleetReady (UInt64.ofNat s.fleet.replicas)
        (lastReported (history ++ [⟨t, .answer .coordinator m (.reply result)⟩])))
      (m.now.since began.now))) } := by
  -- the creation has been answered just now, by the only answer that there is
  have hresult : created = result := by
    rw [replies_concat, hnone, replyIn_creating hphase hsettings] at hbegan
    cases List.mem_singleton.mp hbegan
    rfl
  subst hresult
  rcases created_cases t m created with ⟨e, rfl, hconflict, _⟩ | ⟨given, hgiven, hcreated⟩
  · cases hhandle with
    | present body => exact absurd rfl (hconflict body)
  · rw [hsettings] at hgiven
    have hscaling := scaling_of_created (m := m) hnone hsettings hphase hgiven
    simp only [hcreated, awaitHandle, Readiness.start, hsettings]
    rw [hscaling.next_eq hbegan hlimit hpassed]
    simp only [awaitFleet, hsettings]

/-- A fleet that is fetched unready behind its deadline ends a trial. -/
theorem fetched_of_late {c : Census} {began : Moment} {limit : Duration} {snapshot : Snapshot}
    {created : Except TrialError Snapshot} (hphase : t.phase = .scaling (.fetching c))
    (hscaling : Scaling s history c)
    (hbegan : (creation s, began, created) ∈
      replies (history ++ [⟨t, .answer .coordinator m (.reply (.ok snapshot))⟩]))
    (hunready : lastReported (history ++ [⟨t, .answer .coordinator m (.reply (.ok snapshot))⟩]) ≠
      some (UInt64.ofNat s.fleet.replicas))
    (hlimit : s.polling.scaleDeadline = some limit) (hpassed : limit ≤ m.now.since began.now) :
    t.resumeCoordinator m (.reply (.ok snapshot)) = { t with phase := .over (.error (.timedOut
      (.fleetReady (UInt64.ofNat s.fleet.replicas)
        (lastReported (history ++ [⟨t, .answer .coordinator m (.reply (.ok snapshot))⟩])))
      (m.now.since began.now))) } := by
  have hseen : (c.see snapshot).lastSeen ≠ some c.target := by
    rw [hscaling.lastReported_see hphase, ← hscaling.target] at hunready
    exact hunready
  simp only [resumeCoordinator, hphase, Readiness.resume, if_neg hseen]
  rw [(hscaling.see hphase hseen).next_eq hbegan hlimit hpassed]
  rfl

/-- A trial whose setup fails ends with the error it fails with, as untouched as it was. -/
theorem Course.fails {cue : TrialCue} (hcourse : Course s history t) (hsettings : t.settings = s)
    (hfails : FailsSetup s history ⟨t, cue⟩ e) :
    IsUntouched history t ∧ HasBegun s history ∧ ∃ m answer, cue = .answer .coordinator m answer ∧
      t.resumeCoordinator m answer = { t with phase := .over (.error e) } := by
  cases hfails with
  | @uncreated m e hreply hconflict =>
    obtain ⟨rfl, hrequest⟩ := replyIn_eq_some hreply
    rcases hcourse.requested hsettings hrequest with
      ⟨_, hphase, huntouched, hbegun, _⟩ | ⟨c, hfetch, _⟩ | hdelete
    · refine ⟨huntouched, hbegun, m, _, rfl, ?_⟩
      simp only [resumeCoordinator, hphase]
      exact created_of_uncreated hconflict
    · cases hfetch
    · cases hdelete
  | @unfetched path m e hreply =>
    obtain ⟨rfl, hrequest⟩ := replyIn_eq_some hreply
    rcases hcourse.requested hsettings hrequest with
      ⟨hcreate, _⟩ | ⟨c, _, hphase, huntouched, hbegun, _⟩ | hdelete
    · cases hcreate
    · refine ⟨huntouched, hbegun, m, _, rfl, ?_⟩
      simp only [resumeCoordinator, hphase, Readiness.resume, awaitFleet]
    · cases hdelete
  | @late handle m began limit request created result hreply hgoing hbegan hhandle hunready hlimit
      hpassed =>
    obtain ⟨rfl, hrequest⟩ := replyIn_eq_some hreply
    rcases hcourse.requested hsettings hrequest with
      ⟨rfl, hphase, huntouched, hbegun, hnone⟩ | ⟨c, rfl, hphase, huntouched, hbegun, hscaling⟩ |
        rfl
    · refine ⟨huntouched, hbegun, m, _, rfl, ?_⟩
      have hcreated := created_of_late hsettings hphase hnone hbegan hhandle hlimit hpassed
      simp only [resumeCoordinator, hphase]
      exact hcreated
    · rcases hgoing with hcreate | ⟨path, snapshot, _, rfl⟩
      · cases hcreate
      · exact ⟨huntouched, hbegun, m, _, rfl,
          fetched_of_late hphase hscaling hbegan hunready hlimit hpassed⟩
    · rcases hgoing with hcreate | ⟨path, snapshot, hfetch, _⟩
      · cases hcreate
      · cases hfetch

/-- The coordinator requests no allocation. -/
theorem HasBegun.not_mem (hbegun : HasBegun s history) (body : Json) :
    (.coordinator, .create s.allocationsPath body) ∉ requests history := by
  obtain ⟨later, hrequests, hlater⟩ := hbegun
  intro hmem
  rw [hrequests] at hmem
  rcases List.mem_cons.mp hmem with hfirst | hmem
  · simp only [creation, Prod.mk.injEq, Request.create.injEq, true_and] at hfirst
    exact fleetsPath_ne_allocationsPath s hfirst.1.symm
  · exact hlater _ hmem

/-- What is left of a trial whose fleet could not be set up. -/
structure IsAbandoned (s : Settings) (history : List (Scene Trial TrialCue)) (t : Trial)
    (e : TrialError) : Prop where
  /-- It has ended with the error. -/
  phase : t.phase = .over (.error e)
  /-- No user has been started. -/
  users : t.users = []
  /-- None had been started at any time. -/
  unstarted : ∀ scene ∈ history, scene.before.users = []
  /-- Nothing has been counted or measured. -/
  tally : t.tally = .empty
  /-- No report has been printed. -/
  report : t.report = none
  /-- No allocation has been requested. -/
  requests : ∀ role body, (role, .create s.allocationsPath body) ∉ requests history

/-- A trial has no users before it has any. -/
theorem users_eq_nil_of_mem (hrun : system.Run (create s) history t) (husers : t.users = [])
    (hscene : scene ∈ history) : scene.before.users = [] := by
  obtain ⟨earlier, later, rfl⟩ := List.append_of_mem hscene
  obtain ⟨_, hallows, hlater⟩ := hrun.split
  have hle := length_users_le_of_run ((System.Run.nil.snoc hallows).append hlater)
  rw [husers] at hle
  exact List.eq_nil_of_length_eq_zero (Nat.le_zero.mp hle)

/-- A trial that is over and has no users stays as it is, whatever comes. -/
theorem run_of_over {later : List (Scene Trial TrialCue)} (hrun : system.Run t later t')
    (hphase : t.phase = .over (.error e)) (husers : t.users = []) :
    t' = t ∧ requests later = [] := by
  induction hrun with
  | nil => exact ⟨rfl, rfl⟩
  | @snoc scenes a cue _ hallows ih =>
    obtain ⟨rfl, hnone⟩ := ih
    rcases cue with ⟨role, m, answer⟩ | _
    · obtain ⟨_, hadmits⟩ := hallows
      cases role with
      | coordinator =>
        simp only [Admits, coordinatorWait, hphase] at hadmits
        cases hadmits
      | user id =>
        obtain ⟨u, hu, _⟩ := hadmits
        rw [husers] at hu
        cases hu
    · refine ⟨?_, ?_⟩
      · simp only [system, signalUsers, husers, List.map_nil]
        rw [← husers]
      · rw [requests_concat, hnone]
        rfl

/-- A trial whose setup has failed is abandoned for ever. -/
theorem isAbandoned_of_fails {earlier later : List (Scene Trial TrialCue)}
    (hsetup : s.fleet.setup = true)
    (hrun : system.Run (create s) (earlier ++ scene :: later) t)
    (hfails : FailsSetup s earlier scene e) :
    IsAbandoned s (earlier ++ scene :: later) t e := by
  obtain ⟨before, cue⟩ := scene
  obtain ⟨hearlier, _, hlater⟩ := hrun.split
  have hsettings : before.settings = s := settings_of_run hearlier
  have hcourse := course_of_run hsetup hearlier
  obtain ⟨huntouched, hbegun, m, answer, rfl, hresume⟩ := hcourse.fails hsettings hfails
  have hphase : system.perform (.answer .coordinator m answer) before =
      { before with phase := .over (.error e) } := hresume
  rw [hphase] at hlater
  obtain ⟨rfl, hnone⟩ := run_of_over hlater rfl huntouched.users
  have hrequests : requests (earlier ++ ⟨before, .answer .coordinator m answer⟩ :: later) =
      requests (earlier ++ [⟨before, .answer .coordinator m answer⟩]) := by
    rw [List.append_cons, requests, List.filterMap_append, ← requests, ← requests, hnone,
      List.append_nil]
  have hfailed := huntouched.coordinate _ hresume.symm
  have hbegun' : HasBegun s (earlier ++ [⟨before, .answer .coordinator m answer⟩]) := by
    refine hbegun.concat fun r hr => ?_
    rw [requestIn_coordinator hresume.symm] at hr
    cases hr
  constructor
  case phase => rfl
  case users => exact hfailed.users
  case unstarted => exact fun _ => users_eq_nil_of_mem hrun hfailed.users
  case tally => exact hfailed.tally
  case report => exact hfailed.report
  case requests =>
    intro role body hmem
    rw [hrequests] at hmem
    obtain rfl : role = .coordinator := hfailed.requests _ hmem
    exact hbegun'.not_mem body hmem

/-- Whether the deletion of the fleet has not been requested, or has been when nothing else could be
any more. -/
inductive DeletesLast (s : Settings) (history : List (Scene Trial TrialCue)) (t : Trial) : Prop
  | kept (hkept : ∀ role path, (role, .delete path) ∉ requests history)
  | deleted {before : List (Role × Request)}
    (hrequests : requests history = before ++ [(.coordinator, .delete s.fleetPath)])
    (hkept : ∀ role path, (role, .delete path) ∉ before) (hover : t.allOver = true)
    (hconcluded : t.phase.IsConcluded)

/-- A scene in which nothing is deleted, and which leaves the trial over if it was. -/
theorem DeletesLast.concat (hlast : DeletesLast s history t)
    (hrequest : ∀ r ∈ requestIn scene, ∀ path, r.2 ≠ .delete path)
    (hdone : t.allOver = true → t.phase.IsConcluded →
      requestIn scene = none ∧ t'.allOver = true ∧ t'.phase.IsConcluded) :
    DeletesLast s (history ++ [scene]) t' := by
  cases hlast with
  | kept hkept =>
    refine .kept fun role path hmem => ?_
    rw [requests_concat] at hmem
    rcases List.mem_append.mp hmem with hold | hnew
    · exact hkept role path hold
    · exact hrequest _ (Option.mem_toList.mp hnew) path rfl
  | deleted hrequests hkept hover hconcluded =>
    obtain ⟨hnone, hover', hconcluded'⟩ := hdone hover hconcluded
    refine .deleted ?_ hkept hover' hconcluded'
    rw [requests_concat, hnone, hrequests, Option.toList_none, List.append_nil]

/-- The coordinator waits for a deletion only while it deletes its fleet. -/
theorem phase_of_delete {path : String}
    (hrequest : t.coordinatorWait.request? = some (.delete path)) :
    ∃ waited, t.phase = .deleting waited := by
  by_cases hbeyond : t.phase.IsBeyondSetup
  · exact (delete_of_request hbeyond hrequest).2
  · unfold coordinatorWait at hrequest
    cases hphase : t.phase with
    | idle | creating =>
      rw [hphase] at hrequest
      cases hrequest
    | scaling readiness =>
      rw [hphase] at hrequest
      cases readiness <;> cases hrequest
    | _ => exact absurd (by rw [hphase]; trivial) hbeyond

/-- A trial that goes on to delete its fleet has been at work until then, with all its users over
behind it. -/
theorem Move.allOver_of_deleting {waited : Except TrialError Unit} (hmove : Move m t answer t')
    (hdeleting : t'.phase = .deleting waited) : ¬t.phase.IsConcluded ∧ t'.allOver = true := by
  cases hmove with
  | prepared hbefore hafter =>
    simp only at hdeleting
    subst hdeleting
    rcases hafter with hstarting | ⟨e, heq⟩
    · exact hstarting.elim
    · cases heq
  | launched => cases hdeleting
  | gathered => cases hdeleting
  | concluded hphase hover =>
    refine ⟨hphase ▸ id, ?_⟩
    rw [allOver, conclude_users]
    exact hover
  | alarmed => cases hdeleting
  | cutOff hphase =>
    refine ⟨hphase ▸ id, ?_⟩
    have husers : (t.stopped m).users = t.users.map User.abort := conclude_users _
    rw [allOver, husers]
    exact all_isOver_abort t.users
  | deleted => cases hdeleting
  | undeleted => cases hdeleting

/-- A trial that has concluded can only end, and requests nothing more. -/
theorem Move.ends (hmove : Move m t answer t') (hconcluded : t.phase.IsConcluded) :
    t'.users = t.users ∧ ∃ result, t'.phase = .over result := by
  cases hmove with
  | prepared hbefore | launched _ hbefore | gathered _ hbefore =>
    exact absurd hconcluded hbefore.not_isConcluded
  | concluded hphase | alarmed hphase | cutOff hphase =>
    rw [hphase] at hconcluded
    exact hconcluded.elim
  | deleted => exact ⟨rfl, _, rfl⟩
  | undeleted => exact ⟨rfl, _, rfl⟩

/-- The coordinator deletes the fleet only if all users are over, and does nothing but end then. -/
theorem DeletesLast.coordinate (hlast : DeletesLast s history t) (hsettings : t.settings = s)
    (hresume : t' = t.resumeCoordinator m answer) (hmove : Move m t answer t') :
    DeletesLast s (history ++ [⟨t, .answer .coordinator m answer⟩]) t' := by
  have hrequested := requestIn_coordinator hresume
  by_cases hdeleting : ∃ waited, t'.phase = .deleting waited
  · obtain ⟨waited, hdeleting⟩ := hdeleting
    obtain ⟨hworking, hover⟩ := hmove.allOver_of_deleting hdeleting
    cases hlast with
    | deleted _ _ _ hconcluded => exact absurd hconcluded hworking
    | kept hkept =>
      refine .deleted ?_ hkept hover (by rw [hdeleting]; trivial)
      rw [requests_concat, hrequested, ← hsettings, ← hmove.settings_eq]
      simp only [coordinatorWait, hdeleting]
      rfl
  · refine hlast.concat ?_ fun hover hconcluded => ?_
    · rw [hrequested]
      rintro r hr path heq
      obtain ⟨request, hrequest, rfl⟩ := Option.map_eq_some_iff.mp hr
      cases heq
      exact hdeleting (phase_of_delete hrequest)
    · obtain ⟨husers, result, hphase⟩ := hmove.ends hconcluded
      refine ⟨?_, ?_, ?_⟩
      · rw [hrequested]
        simp only [coordinatorWait, hphase]
        rfl
      · rw [allOver, husers]
        exact hover
      · rw [hphase]
        trivial

/-- A user deletes nothing, and does nothing at all once all users are over. -/
theorem DeletesLast.work (hlast : DeletesLast s history t) {id : Nat} {u u' : User} {entry : Entry}
    (hu : t.users[id]? = some u) (hadmits : u.Admits t.settings answer)
    (hresume : t.withUser id entry u' = t.resumeUser m answer id) :
    DeletesLast s (history ++ [⟨t, .answer (.user id) m answer⟩]) (t.withUser id entry u') := by
  refine hlast.concat ?_ fun hover _ => ?_
  · rw [requestIn_user hu hresume]
    rintro r hr path heq
    obtain ⟨request, hrequest, rfl⟩ := Option.map_eq_some_iff.mp hr
    cases heq
    rcases User.request_cases hrequest with ⟨_, hfetch⟩ | hcreate
    · cases hfetch
    · cases hcreate
  · exact absurd ⟨u, hu, hadmits⟩ (not_admits_user hover)

/-- Every run deletes the fleet last. -/
theorem deletesLast_of_run (hrun : system.Run (create s) history t) : DeletesLast s history t := by
  refine induction_of_run hrun (.kept fun _ _ => List.not_mem_nil) ?_ ?_ ?_
  · intro history t t' m answer hlast hsettings _ _ hresume hmove
    exact hlast.coordinate hsettings hresume hmove
  · intro history t m answer unix id u u' hlast hsettings _ hu hadmits _ hresume
    exact hlast.work hu (hsettings ▸ hadmits) hresume
  · intro history t hlast _ _
    exact hlast.concat (fun r hr => absurd hr (Option.not_mem_none r)) fun hover hconcluded =>
      ⟨rfl, allOver_signalUsers.trans hover, hconcluded⟩

/-- On its course a trial has requested nothing yet, or the creation of its fleet first. -/
theorem Course.idle_or_begun (hcourse : Course s history t) :
    t.phase = .idle ∧ requests history = [] ∨ HasBegun s history := by
  cases hcourse with
  | idle hphase _ hnone => exact .inl ⟨hphase, hnone⟩
  | creating _ _ hbegun => exact .inr hbegun
  | scaling _ _ _ hbegun => exact .inr hbegun
  | failed _ _ hbegun => exact .inr hbegun
  | working _ hbegun => exact .inr hbegun

/-- The creation of the fleet is requested only once. -/
theorem not_isLater_creation (role : Role) (body : Json) :
    ¬IsLater s history (role, .create s.fleetsPath body) := by
  intro hlater
  cases role with
  | coordinator => exact hlater
  | user id => exact fleetsPath_ne_allocationsPath s hlater

/-- The coordinator waits for no connection. -/
theorem coordinatorWait_ne_connection (t : Trial) (address : String) :
    t.coordinatorWait ≠ .connection address := by
  unfold coordinatorWait
  cases t.phase with
  | scaling readiness => cases readiness <;> nofun
  | joining =>
    simp only
    split
    · nofun
    · split <;> nofun
  | stopping =>
    simp only
    split <;> nofun
  | _ => nofun

/-- A fleet has scaled before the first allocation is requested. -/
theorem hasScaled_of_request {earlier later : List (Scene Trial TrialCue)} {role : Role}
    {body : Json} (hsetup : s.fleet.setup = true)
    (hrun : system.Run (create s) (earlier ++ scene :: later) t)
    (hrequest : requestIn scene = some (role, .create s.allocationsPath body)) :
    HasScaled s earlier := by
  obtain ⟨before, cue⟩ := scene
  obtain ⟨hearlier, hallows, _⟩ := hrun.split
  rcases cue with ⟨waiting, m, answer⟩ | _
  · obtain ⟨_, _, heq⟩ := Option.map_eq_some_iff.mp hrequest
    cases heq
    cases role with
    | coordinator =>
      -- the coordinator never does, so it has not done so here
      have hcourse := course_of_run hsetup (hearlier.snoc hallows)
      have hmem : (.coordinator, .create s.allocationsPath body) ∈
          requests (earlier ++ [⟨before, .answer .coordinator m answer⟩]) := by
        rw [requests_concat, hrequest]
        exact List.mem_append_right _ (List.mem_singleton_self _)
      rcases hcourse.idle_or_begun with ⟨_, hnone⟩ | hbegun
      · rw [hnone] at hmem
        cases hmem
      · exact absurd hmem (hbegun.not_mem body)
    | user id =>
      obtain ⟨_, u, hu, _⟩ := hallows
      exact ((course_of_run hsetup hearlier).of_user hu).2.2
  · cases hrequest

/-- A fleet has scaled before the first connection to the collector is opened. -/
theorem Course.hasScaled_of_connection (hcourse : Course s history t) {role : Role}
    {address : String} (hwait : t.wait role = .connection address) : HasScaled s history := by
  cases role with
  | coordinator => exact absurd hwait (coordinatorWait_ne_connection t address)
  | user id =>
    simp only [wait] at hwait
    split at hwait
    · cases hwait
    · rename_i u hu
      exact (hcourse.of_user hu).2.2

/-- The order in which a trial goes through its phases that sets up its fleet. -/
structure SetsUpFirst (s : Settings) (history : List (Scene Trial TrialCue)) (t : Trial) :
    Prop where
  /-- The creation of the fleet is the first request, and there is no other one. -/
  created : t.phase = .idle ∧ requests history = [] ∨
    ∃ later, requests history = (.coordinator, creation s) :: later ∧
      ∀ role body, (role, .create s.fleetsPath body) ∉ later
  /-- The coordinator fetches the fleet only through the handle that the creation has given. -/
  fetched : ∀ path, (.coordinator, .fetch path) ∈ requests history → IsHandle s history path
  /-- No allocation is requested before a fetch has found the fleet scaled. -/
  allocated : ∀ earlier scene later role body, history = earlier ++ scene :: later →
    requestIn scene = some (role, .create s.allocationsPath body) → HasScaled s earlier
  /-- No connection to the collector is opened before a fetch has found the fleet scaled. -/
  connected : ∀ role address, t.wait role = .connection address → HasScaled s history
  /-- A setup that fails is all that there is of the trial. -/
  failed : ∀ earlier scene later e, history = earlier ++ scene :: later →
    FailsSetup s earlier scene e → IsAbandoned s history t e

/-- Every run of a trial that sets up its fleet does so first. -/
theorem setsUpFirst_of_run (hsetup : s.fleet.setup = true)
    (hrun : system.Run (create s) history t) : SetsUpFirst s history t := by
  have hcourse := course_of_run hsetup hrun
  constructor
  case created =>
    refine hcourse.idle_or_begun.imp_right fun ⟨later, hrequests, hlater⟩ => ?_
    exact ⟨later, hrequests, fun role body hmem => not_isLater_creation role body (hlater _ hmem)⟩
  case fetched =>
    intro path hmem
    rcases hcourse.idle_or_begun with ⟨_, hnone⟩ | ⟨later, hrequests, hlater⟩
    · rw [hnone] at hmem
      cases hmem
    · rw [hrequests] at hmem
      rcases List.mem_cons.mp hmem with hfirst | hmem
      · cases hfirst
      · exact hlater _ hmem
  case allocated =>
    rintro earlier scene later role body rfl hrequest
    exact hasScaled_of_request hsetup hrun hrequest
  case connected => exact fun role address => hcourse.hasScaled_of_connection
  case failed =>
    rintro earlier scene later e rfl hfails
    exact isAbandoned_of_fails hsetup hrun hfails

/-- A trial goes through its phases in order. If it sets up its fleet it does so first, and nothing
else happens if that fails; the deletion of the fleet, if it is requested, is the last of all
requests, when all users are over. -/
theorem phases_in_order (hrun : system.Run (create s) history t) :
    (s.fleet.setup = true → SetsUpFirst s history t) ∧
      ∀ before role path after, requests history = before ++ (role, .delete path) :: after →
        role = .coordinator ∧ path = s.fleetPath ∧ after = [] ∧ t.allOver = true := by
  refine ⟨fun hsetup => setsUpFirst_of_run hsetup hrun, fun before role path after hsplit => ?_⟩
  cases deletesLast_of_run hrun with
  | kept hkept =>
    refine absurd ?_ (hkept role path)
    rw [hsplit]
    exact List.mem_append_right _ List.mem_cons_self
  | @deleted front hrequests hkept hover _ =>
    rw [hrequests] at hsplit
    rcases List.eq_nil_or_concat after with rfl | ⟨rest, last, rfl⟩
    · obtain ⟨_, hlast⟩ := List.append_inj' hsplit rfl
      cases hlast
      exact ⟨rfl, rfl, rfl, hover⟩
    · rw [List.concat_eq_append, ← List.cons_append, ← List.append_assoc] at hsplit
      obtain ⟨rfl, _⟩ := List.append_inj' hsplit rfl
      exact absurd (List.mem_append_right _ List.mem_cons_self) (hkept role path)

/-- A fleet scales, one user makes one attempt, and the fleet is deleted in the end; another fleet
is there already and cannot be fetched. -/
theorem phases_in_order_of_two_trials :
    (∃ history t, system.Run (create (.furnishing 1 1)) history t ∧
      (requests history).map (fun r => (r.1, r.2.verb)) =
        [(.coordinator, .post), (.coordinator, .get), (.coordinator, .get), (.user 0, .get),
          (.user 0, .post), (.coordinator, .delete)] ∧
      SetsUpFirst (.furnishing 1 1) history t ∧ t.allOver = true) ∧
    ∃ history t, system.Run (create (.furnishing 1 1)) history t ∧
      IsAbandoned (.furnishing 1 1) history t (.rejected 404 "") := by
  have hmoment := Moment.isReadable_origin
  constructor
  · have hallows : system.AllowsAll (create (.furnishing 1 1))
        [.answer .coordinator .origin .go,
          .answer .coordinator .origin (.reply (.ok (.pending "link"))),
          .answer .coordinator .origin (.reply (.ok (.pending "link"))),
          .answer .coordinator .origin (.reply (.ok (.withReady "link" 1))),
          .answer (.user 0) .origin .go,
          .answer (.user 0) .origin (.reply (.ok (.withReady "link" 1))),
          .answer (.user 0) .origin (.reply (.ok (.inState "allocation" "Allocated"))),
          .answer .coordinator .origin .go, .answer .coordinator .origin .go,
          .answer .coordinator .origin (.reply (.ok .empty))] :=
      ⟨⟨hmoment, .turn⟩, ⟨hmoment, .replied _ _⟩, ⟨hmoment, .replied _ _⟩, ⟨hmoment, .replied _ _⟩,
        ⟨hmoment, _, rfl, .answered .turn⟩, ⟨hmoment, _, rfl, .answered (.replied _ _)⟩,
        ⟨hmoment, _, rfl, .answered (.replied _ _)⟩, ⟨hmoment, .rested _⟩, ⟨hmoment, .turn⟩,
        ⟨hmoment, .replied _ _⟩, trivial⟩
    obtain ⟨history, t, hrun, hverbs, hdeleted⟩ : ∃ history t,
        system.Run (create (.furnishing 1 1)) history t ∧
          (requests history).map (fun r => (r.1, r.2.verb)) =
            [(.coordinator, .post), (.coordinator, .get), (.coordinator, .get), (.user 0, .get),
              (.user 0, .post), (.coordinator, .delete)] ∧
          (requests history).getLast? =
            some (.coordinator, .delete (Settings.furnishing 1 1).fleetPath) :=
      ⟨_, _, .of_allowsAll hallows, rfl, rfl⟩
    obtain ⟨hfirst, hlast⟩ := phases_in_order hrun
    obtain ⟨before, hrequests⟩ := List.getLast?_eq_some_iff.mp hdeleted
    exact ⟨history, t, hrun, hverbs, hfirst rfl, (hlast before _ _ [] hrequests).2.2.2⟩
  · have hallows : system.AllowsAll (create (.furnishing 1 1))
        [.answer .coordinator .origin .go,
          .answer .coordinator .origin (.reply (.error (.rejected conflictStatus ""))),
          .answer .coordinator .origin (.reply (.error (.rejected 404 "")))] :=
      ⟨⟨hmoment, .turn⟩, ⟨hmoment, .replied _ _⟩, ⟨hmoment, .replied _ _⟩, trivial⟩
    have hrun := System.Run.of_allowsAll hallows
    exact ⟨_, _, hrun, ((phases_in_order hrun).1 rfl).failed [_, _] _ [] _ rfl (.unfetched rfl)⟩

end Trial

end FleetTrial
