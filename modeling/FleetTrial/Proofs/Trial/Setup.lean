import FleetTrial.Proofs.Trial.Reconciliation

/-!
# Setting a fleet up

A trial that sets up its fleet requests the creation first of all, and goes on to fetch the fleet
through the handle that the answer gives. Until a fetch has reported exactly the wanted number of
replicas there are no users, and if the setup fails there never are.
-/

namespace FleetTrial

/-- The request whose answer is waited for, if there is one. -/
def Wait.request? : Wait → Option Request
  | .reply request => some request
  | _ => none

/-- Whether the setup of the fleet is over. -/
def Phase.IsBeyondSetup : Phase → Prop
  | .idle | .creating | .scaling _ => False
  | _ => True

namespace Census

variable {c : Census} {now : Instant}

/-- The error of a wait whose deadline has passed. -/
def overdue (now : Instant) (c : Census) : TrialError :=
  .timedOut (.fleetReady c.target c.lastSeen) (c.deadline.elapsed now)

/-- A wait for a fleet fails if its deadline has passed, and goes on otherwise. -/
theorem next_cases (now : Instant) (c : Census) :
    (c.deadline.expired now = true ∧ c.next now = .over (.error (c.overdue now))) ∨
      c.deadline.expired now = false ∧ (c.next now = .pausing c ∨ c.next now = .fetching c) := by
  unfold next
  cases hexpired : c.deadline.expired now with
  | true => exact .inl ⟨rfl, rfl⟩
  | false =>
    refine .inr ⟨rfl, ?_⟩
    rw [if_neg Bool.false_ne_true]
    split
    · exact .inl rfl
    · exact .inr rfl

end Census

/-- A user requests nothing but snapshots and allocations. -/
theorem User.request_cases {s : Settings} {u : User} {request : Request}
    (hrequest : (u.wait s).request? = some request) :
    (∃ path, request = .fetch path) ∨
      request = .create s.allocationsPath (Manifest.allocation s) := by
  unfold wait at hrequest
  cases hactivity : u.activity with
  | attempting attempt =>
    rw [hactivity] at hrequest
    cases attempt with
    | sampling =>
      cases hrequest
      exact .inl ⟨_, rfl⟩
    | requesting =>
      cases hrequest
      exact .inr rfl
    | watching w =>
      cases w with
      | fetching _ link =>
        cases hrequest
        exact .inl ⟨_, rfl⟩
      | _ => cases hrequest
    | _ => cases hrequest
  | _ =>
    rw [hactivity] at hrequest
    cases hrequest

namespace Trial

variable {s : Settings} {t t' : Trial} {m : Moment} {answer : Answer}
  {history : List (Scene Trial TrialCue)} {scene : Scene Trial TrialCue} {e : TrialError}

/-- The request that a task makes in a scene, in which it goes on to wait for the answer. -/
def requestIn (scene : Scene Trial TrialCue) : Option (Role × Request) :=
  match scene.cue with
  | .answer role m answer =>
    ((scene.before.resume m answer role).wait role).request?.map (role, ·)
  | .signal => none

/-- The requests that are made in some scenes, in order, each with the task that makes it. -/
def requests (history : List (Scene Trial TrialCue)) : List (Role × Request) :=
  history.filterMap requestIn

/-- The answer that the coordinator gets in a scene, if it has requested something. -/
def replyIn (scene : Scene Trial TrialCue) :
    Option (Request × Moment × Except TrialError Snapshot) :=
  match scene.cue with
  | .answer .coordinator m (.reply result) =>
    scene.before.coordinatorWait.request?.map (·, m, result)
  | _ => none

/-- The answers that the coordinator gets to its requests, in order. -/
def replies (history : List (Scene Trial TrialCue)) :
    List (Request × Moment × Except TrialError Snapshot) := history.filterMap replyIn

/-- The request by which a trial creates its fleet. -/
def creation (s : Settings) : Request := .create s.fleetsPath (Manifest.fleet s)

/-- The handle that an answer to the creation of a fleet gives: the self-link of the fleet, or the
fleet's own path if there is no link or if the fleet is there already. -/
inductive IsHandleOf (s : Settings) : Except TrialError Snapshot → String → Prop
  | linked {snapshot : Snapshot} {link : String} (hlink : snapshot.selfLink? = some link) :
    IsHandleOf s (.ok snapshot) link
  | unlinked {snapshot : Snapshot} (hlink : snapshot.selfLink? = none) :
    IsHandleOf s (.ok snapshot) s.fleetPath
  | present (body : String) : IsHandleOf s (.error (.rejected conflictStatus body)) s.fleetPath

/-- Whether the answer to the creation has given this handle. -/
def IsHandle (s : Settings) (history : List (Scene Trial TrialCue)) (handle : String) : Prop :=
  ∃ m result, (creation s, m, result) ∈ replies history ∧ IsHandleOf s result handle

/-- Whether fetching the fleet through its handle has reported exactly the wanted number of ready
replicas. -/
def HasScaled (s : Settings) (history : List (Scene Trial TrialCue)) : Prop :=
  ∃ handle m snapshot, IsHandle s history handle ∧
    (.fetch handle, m, .ok snapshot) ∈ replies history ∧
    snapshot.readyReplicas? = some (UInt64.ofNat s.fleet.replicas)

/-- The number of ready replicas that an answer reports, if it is one to a fetch. -/
def reportedBy : Request × Moment × Except TrialError Snapshot → Option UInt64
  | (.fetch _, _, .ok snapshot) => snapshot.readyReplicas?
  | _ => none

/-- The last number of ready replicas that fetching the fleet has reported. -/
def lastReported (history : List (Scene Trial TrialCue)) : Option UInt64 :=
  ((replies history).filterMap reportedBy).getLast?

/-- The errors that the setup of a fleet ends in behind `earlier`: the answer to the creation or to
a fetch is an error other than a conflict, or it finds the fleet unready and the deadline passed. -/
inductive FailsSetup (s : Settings) (earlier : List (Scene Trial TrialCue))
    (scene : Scene Trial TrialCue) : TrialError → Prop
  | uncreated {m : Moment} {e : TrialError}
    (hreply : replyIn scene = some (creation s, m, .error e))
    (hconflict : ∀ body, e ≠ .rejected conflictStatus body) : FailsSetup s earlier scene e
  | unfetched {path : String} {m : Moment} {e : TrialError}
    (hreply : replyIn scene = some (.fetch path, m, .error e)) : FailsSetup s earlier scene e
  | late {handle : String} {m began : Moment} {limit : Duration} {request : Request}
    {created result : Except TrialError Snapshot}
    (hreply : replyIn scene = some (request, m, result))
    (hgoing : request = creation s ∨ ∃ path snapshot, request = .fetch path ∧ result = .ok snapshot)
    (hbegan : (creation s, began, created) ∈ replies (earlier ++ [scene]))
    (hhandle : IsHandleOf s created handle)
    (hunready : lastReported (earlier ++ [scene]) ≠ some (UInt64.ofNat s.fleet.replicas))
    (hlimit : s.polling.scaleDeadline = some limit) (hpassed : limit ≤ m.now.since began.now) :
    FailsSetup s earlier scene
      (.timedOut (.fleetReady (UInt64.ofNat s.fleet.replicas) (lastReported (earlier ++ [scene])))
        (m.now.since began.now))

/-- One more request is made behind the others, or none is. -/
theorem requests_concat (history : List (Scene Trial TrialCue)) (scene : Scene Trial TrialCue) :
    requests (history ++ [scene]) = requests history ++ (requestIn scene).toList := by
  rw [requests, List.filterMap_append, requests]
  cases hrequest : requestIn scene <;> simp [hrequest]

/-- One more answer comes behind the others, or none does. -/
theorem replies_concat (history : List (Scene Trial TrialCue)) (scene : Scene Trial TrialCue) :
    replies (history ++ [scene]) = replies history ++ (replyIn scene).toList := by
  rw [replies, List.filterMap_append, replies]
  cases hreply : replyIn scene <;> simp [hreply]

/-- An answer that has come stays known. -/
theorem mem_replies_concat {reply : Request × Moment × Except TrialError Snapshot}
    (hreply : reply ∈ replies history) (scene : Scene Trial TrialCue) :
    reply ∈ replies (history ++ [scene]) := by
  rw [replies_concat]
  exact List.mem_append_left _ hreply

/-- A number of ready replicas is the last one until another one is reported. -/
theorem lastReported_concat (history : List (Scene Trial TrialCue))
    (scene : Scene Trial TrialCue) :
    lastReported (history ++ [scene]) =
      ((replyIn scene).bind reportedBy).or (lastReported history) := by
  rw [lastReported, replies_concat, List.filterMap_append, lastReported]
  cases hreply : replyIn scene with
  | none => simp
  | some reply =>
    cases hreported : reportedBy reply with
    | none => simp [hreported]
    | some ready => simp [hreported]

/-- A handle stays known. -/
theorem IsHandle.concat {handle : String} (hhandle : IsHandle s history handle)
    (scene : Scene Trial TrialCue) : IsHandle s (history ++ [scene]) handle := by
  obtain ⟨m, result, hreply, hresult⟩ := hhandle
  exact ⟨m, result, mem_replies_concat hreply scene, hresult⟩

/-- A fleet that has scaled stays one that has. -/
theorem HasScaled.concat (hscaled : HasScaled s history) (scene : Scene Trial TrialCue) :
    HasScaled s (history ++ [scene]) := by
  obtain ⟨handle, m, snapshot, hhandle, hreply, hready⟩ := hscaled
  exact ⟨handle, m, snapshot, hhandle.concat scene, mem_replies_concat hreply scene, hready⟩

/-- What is requested in a scene of the coordinator is what it waits for behind it. -/
theorem requestIn_coordinator (hresume : t' = t.resumeCoordinator m answer) :
    requestIn ⟨t, .answer .coordinator m answer⟩ =
      t'.coordinatorWait.request?.map (.coordinator, ·) := by
  rw [hresume]
  rfl

/-- A trial that creates its fleet gets the answer to the creation. -/
theorem replyIn_creating (hphase : t.phase = .creating) (hsettings : t.settings = s)
    (result : Except TrialError Snapshot) :
    replyIn ⟨t, .answer .coordinator m (.reply result)⟩ = some (creation s, m, result) := by
  simp only [replyIn, coordinatorWait, hphase, hsettings]
  rfl

/-- A trial that fetches its fleet gets the answer to the fetch. -/
theorem replyIn_fetching {c : Census} (hphase : t.phase = .scaling (.fetching c))
    (result : Except TrialError Snapshot) :
    replyIn ⟨t, .answer .coordinator m (.reply result)⟩ =
      some (.fetch c.handle, m, result) := by
  simp only [replyIn, coordinatorWait, hphase]
  rfl

/-- Creating the fleet and requesting an allocation are different requests. -/
theorem fleetsPath_ne_allocationsPath (s : Settings) : s.fleetsPath ≠ s.allocationsPath := by
  intro heq
  exact absurd ((String.append_right_inj _).mp heq) (by decide)

/-- What may be requested once the creation of the fleet has been. -/
def IsLater (s : Settings) (history : List (Scene Trial TrialCue)) : Role × Request → Prop
  | (.coordinator, .fetch path) => IsHandle s history path
  | (.coordinator, .create _ _) => False
  | (.coordinator, .delete _) => True
  | (.user _, .create path _) => path = s.allocationsPath
  | (.user _, _) => True

/-- Whether the creation of the fleet has been requested, before anything else and only once. -/
def HasBegun (s : Settings) (history : List (Scene Trial TrialCue)) : Prop :=
  ∃ later, requests history = (.coordinator, creation s) :: later ∧
    ∀ r ∈ later, IsLater s history r

/-- Whether no user has been started, and nothing has been counted, measured or reported. -/
structure IsUntouched (history : List (Scene Trial TrialCue)) (t : Trial) : Prop where
  users : t.users = []
  tally : t.tally = .empty
  report : t.report = none
  requests : ∀ r ∈ requests history, r.1 = .coordinator

/-- What is known of the census of a trial that waits for its fleet. -/
structure Scaling (s : Settings) (history : List (Scene Trial TrialCue)) (c : Census) : Prop where
  target : c.target = UInt64.ofNat s.fleet.replicas
  limit : c.deadline.limit = s.polling.scaleDeadline
  answers : ∃ m result later, replies history = (creation s, m, result) :: later ∧
    IsHandleOf s result c.handle ∧ c.deadline.start = m.now ∧
    ∀ reply ∈ later, ∃ path, reply.1 = .fetch path
  lastSeen : c.lastSeen = lastReported history
  unready : c.lastSeen ≠ some c.target

/-- The course of a trial that sets up its fleet: how it stands when `history` has led to it. -/
inductive Course (s : Settings) (history : List (Scene Trial TrialCue)) (t : Trial) : Prop
  | idle (hphase : t.phase = .idle) (huntouched : IsUntouched history t)
    (hrequests : requests history = []) (hreplies : replies history = [])
  | creating (hphase : t.phase = .creating) (huntouched : IsUntouched history t)
    (hbegun : HasBegun s history) (hreplies : replies history = [])
  | scaling {c : Census} {readiness : Readiness} (hphase : t.phase = .scaling readiness)
    (hreadiness : readiness = .pausing c ∨ readiness = .fetching c)
    (huntouched : IsUntouched history t) (hbegun : HasBegun s history)
    (hscaling : Scaling s history c)
  | failed {e : TrialError} (hphase : t.phase = .over (.error e))
    (huntouched : IsUntouched history t) (hbegun : HasBegun s history)
  | working (hphase : t.phase.IsBeyondSetup) (hbegun : HasBegun s history)
    (hscaled : HasScaled s history)

/-- What may be requested behind the creation may still be later. -/
theorem IsLater.concat {r : Role × Request} (hlater : IsLater s history r)
    (scene : Scene Trial TrialCue) : IsLater s (history ++ [scene]) r := by
  obtain ⟨role, request⟩ := r
  cases role with
  | coordinator =>
    cases request with
    | fetch path => exact IsHandle.concat hlater scene
    | create path body => exact hlater
    | delete path => exact hlater
  | user id => cases request <;> exact hlater

/-- What is requested in one more scene comes behind the creation. -/
theorem HasBegun.concat (hbegun : HasBegun s history)
    (hlater : ∀ r ∈ requestIn scene, IsLater s (history ++ [scene]) r) :
    HasBegun s (history ++ [scene]) := by
  obtain ⟨later, hrequests, hall⟩ := hbegun
  refine ⟨later ++ (requestIn scene).toList, ?_, fun r hr => ?_⟩
  · rw [requests_concat, hrequests, List.cons_append]
  · rcases List.mem_append.mp hr with hold | hnew
    · exact (hall r hold).concat scene
    · exact hlater r (Option.mem_toList.mp hnew)

/-- A trial that the coordinator leaves in another phase stays untouched. -/
theorem IsUntouched.coordinate (huntouched : IsUntouched history t) (phase : Phase)
    (hresume : { t with phase } = t.resumeCoordinator m answer) :
    IsUntouched (history ++ [⟨t, .answer .coordinator m answer⟩]) { t with phase } where
  users := huntouched.users
  tally := huntouched.tally
  report := huntouched.report
  requests r hr := by
    rw [requests_concat, requestIn_coordinator hresume] at hr
    rcases List.mem_append.mp hr with hold | hnew
    · exact huntouched.requests r hold
    · obtain ⟨request, _, rfl⟩ := Option.map_eq_some_iff.mp (Option.mem_toList.mp hnew)
      rfl

/-- A handle of the fleet that is scaling. -/
theorem Scaling.isHandle {c : Census} (hscaling : Scaling s history c) :
    IsHandle s history c.handle := by
  obtain ⟨m, result, later, hreplies, hhandle, _⟩ := hscaling.answers
  exact ⟨m, result, hreplies ▸ List.mem_cons_self, hhandle⟩

/-- A scene without an answer to the coordinator tells nothing of the fleet. -/
theorem Scaling.concat {c : Census} (hscaling : Scaling s history c)
    (hnone : replyIn scene = none) : Scaling s (history ++ [scene]) c := by
  have hreplies : replies (history ++ [scene]) = replies history := by
    rw [replies_concat, hnone, Option.toList_none, List.append_nil]
  constructor
  case target => exact hscaling.target
  case limit => exact hscaling.limit
  case answers => rw [hreplies]; exact hscaling.answers
  case lastSeen => rw [lastReported, hreplies]; exact hscaling.lastSeen
  case unready => exact hscaling.unready

/-- A trial that waits for its fleet goes on with it or fails. -/
theorem course_awaitFleet {c : Census} (huntouched : IsUntouched history t)
    (hbegun : HasBegun s history)
    (hscaling : Scaling s (history ++ [⟨t, .answer .coordinator m answer⟩]) c)
    (hresume : t.awaitFleet m (c.next m.now) = t.resumeCoordinator m answer) :
    Course s (history ++ [⟨t, .answer .coordinator m answer⟩]) (t.awaitFleet m (c.next m.now)) := by
  rcases c.next_cases m.now with ⟨_, hnext⟩ | ⟨_, hnext | hnext⟩ <;> rw [hnext] at hresume ⊢
  · refine .failed rfl (huntouched.coordinate _ hresume) (hbegun.concat ?_)
    rw [requestIn_coordinator hresume]
    nofun
  · refine .scaling rfl (.inl rfl) (huntouched.coordinate _ hresume) (hbegun.concat ?_) hscaling
    rw [requestIn_coordinator hresume]
    nofun
  · refine .scaling rfl (.inr rfl) (huntouched.coordinate _ hresume) (hbegun.concat ?_) hscaling
    rw [requestIn_coordinator hresume]
    rintro r ⟨⟩
    exact hscaling.isHandle

/-- Creating the fleet fails, or it gives a handle to wait with. -/
theorem created_cases (t : Trial) (m : Moment) (result : Except TrialError Snapshot) :
    (∃ e, result = .error e ∧ (∀ body, e ≠ .rejected conflictStatus body) ∧
      t.created m result = { t with phase := .over (.error e) }) ∨
    ∃ handle, IsHandleOf t.settings result handle ∧
      t.created m result = t.awaitHandle m handle := by
  cases result with
  | ok snapshot =>
    refine .inr ⟨snapshot.selfLink?.getD t.settings.fleetPath, ?_, rfl⟩
    cases hlink : snapshot.selfLink? with
    | none => exact .unlinked hlink
    | some link => exact .linked hlink
  | error e =>
    cases e with
    | rejected status body =>
      by_cases hstatus : status = conflictStatus
      · subst hstatus
        exact .inr ⟨_, .present body, by simp only [created, if_true]⟩
      · refine .inl ⟨_, rfl, ?_, if_neg hstatus⟩
        rintro other ⟨⟩
        exact hstatus rfl
    | _ => exact .inl ⟨_, rfl, nofun, rfl⟩

/-- The answer to the creation of the fleet, and what the wait for it starts with. -/
theorem scaling_of_created (hreplies : replies history = []) (hsettings : t.settings = s)
    (hphase : t.phase = .creating) {result : Except TrialError Snapshot} {handle : String}
    (hhandle : IsHandleOf s result handle) :
    Scaling s (history ++ [⟨t, .answer .coordinator m (.reply result)⟩])
      ⟨handle, UInt64.ofNat s.fleet.replicas, ⟨m.now, s.polling.scaleDeadline⟩,
        s.polling.interval, none, 0⟩ := by
  have hreply := replyIn_creating (m := m) hphase hsettings result
  constructor
  case target => rfl
  case limit => rfl
  case answers =>
    refine ⟨m, result, [], ?_, hhandle, rfl, List.forall_mem_nil _⟩
    rw [replies_concat, hreplies, hreply]
    rfl
  case lastSeen =>
    rw [lastReported_concat, hreply, lastReported, hreplies]
    rfl
  case unready => nofun

/-- A trial that creates its fleet goes on to wait for it or fails. -/
theorem course_created (hphase : t.phase = .creating) (huntouched : IsUntouched history t)
    (hbegun : HasBegun s history) (hreplies : replies history = []) (hsettings : t.settings = s)
    (result : Except TrialError Snapshot) :
    Course s (history ++ [⟨t, .answer .coordinator m (.reply result)⟩]) (t.created m result) := by
  have hresume : t.created m result = t.resumeCoordinator m (.reply result) := by
    simp only [resumeCoordinator, hphase]
  rcases created_cases t m result with ⟨e, _, _, hcreated⟩ | ⟨handle, hhandle, hcreated⟩ <;>
    rw [hcreated] at hresume ⊢
  · refine .failed rfl (huntouched.coordinate _ hresume) (hbegun.concat ?_)
    rw [requestIn_coordinator hresume]
    nofun
  · rw [hsettings] at hhandle
    have hscaling := scaling_of_created (m := m) hreplies hsettings hphase hhandle
    simp only [awaitHandle, Readiness.start, hsettings] at hresume ⊢
    exact course_awaitFleet huntouched hbegun hscaling hresume

/-- Behind the setup the coordinator requests nothing but the deletion of the fleet. -/
theorem delete_of_request (hbeyond : t.phase.IsBeyondSetup) {request : Request}
    (hrequest : t.coordinatorWait.request? = some request) :
    request = .delete t.settings.fleetPath ∧ ∃ waited, t.phase = .deleting waited := by
  unfold coordinatorWait at hrequest
  cases hphase : t.phase with
  | idle | creating | scaling => exact absurd hbeyond (by rw [hphase]; exact id)
  | launching | «over» | crashed =>
    rw [hphase] at hrequest
    cases hrequest
  | joining =>
    simp only [hphase] at hrequest
    split at hrequest
    · cases hrequest
    · split at hrequest <;> cases hrequest
  | stopping =>
    simp only [hphase] at hrequest
    split at hrequest <;> cases hrequest
  | deleting waited =>
    simp only [hphase] at hrequest
    cases hrequest
    exact ⟨rfl, waited, rfl⟩

/-- A trial that has scaled its fleet stays on its course beyond the setup. -/
theorem course_beyond (hbegun : HasBegun s history)
    (hscaled : HasScaled s (history ++ [⟨t, .answer .coordinator m answer⟩]))
    (hbeyond : (t.resumeCoordinator m answer).phase.IsBeyondSetup) :
    Course s (history ++ [⟨t, .answer .coordinator m answer⟩]) (t.resumeCoordinator m answer) := by
  refine .working hbeyond (hbegun.concat fun r hr => ?_) hscaled
  obtain ⟨request, hrequest, rfl⟩ := Option.map_eq_some_iff.mp ((requestIn_coordinator rfl) ▸ hr)
  rw [(delete_of_request hbeyond hrequest).1]
  trivial

/-- A trial that starts a user or finds none left is beyond the setup. -/
theorem isBeyondSetup_launch (t : Trial) : t.launch.phase.IsBeyondSetup := by
  unfold launch
  split <;> trivial

/-- The number of ready replicas that is reported last behind one more snapshot. -/
theorem Scaling.lastReported_see {c : Census} (hphase : t.phase = .scaling (.fetching c))
    (hscaling : Scaling s history c) (snapshot : Snapshot) :
    lastReported (history ++ [⟨t, .answer .coordinator m (.reply (.ok snapshot))⟩]) =
      (c.see snapshot).lastSeen := by
  rw [lastReported_concat, replyIn_fetching hphase, ← hscaling.lastSeen]
  rfl

/-- What has been seen of the fleet behind one more snapshot. -/
theorem Scaling.see {c : Census} (hphase : t.phase = .scaling (.fetching c))
    (hscaling : Scaling s history c) {snapshot : Snapshot}
    (hunready : (c.see snapshot).lastSeen ≠ some c.target) :
    Scaling s (history ++ [⟨t, .answer .coordinator m (.reply (.ok snapshot))⟩])
      (c.see snapshot) := by
  have hreply := replyIn_fetching (m := m) hphase (.ok snapshot)
  constructor
  case target => exact hscaling.target
  case limit => exact hscaling.limit
  case answers =>
    obtain ⟨began, result, later, hreplies, hhandle, hstart, hlater⟩ := hscaling.answers
    refine ⟨began, result, later ++ [(.fetch c.handle, m, .ok snapshot)], ?_, hhandle, hstart, ?_⟩
    · rw [replies_concat, hreplies, hreply]
      rfl
    · intro reply hreply
      rcases List.mem_append.mp hreply with hold | hnew
      · exact hlater reply hold
      · cases List.mem_singleton.mp hnew
        exact ⟨_, rfl⟩
  case lastSeen => exact (hscaling.lastReported_see hphase snapshot).symm
  case unready => exact hunready

/-- A fleet that is seen with the wanted number of ready replicas has scaled. -/
theorem Scaling.hasScaled {c : Census} (hphase : t.phase = .scaling (.fetching c))
    (hscaling : Scaling s history c) {snapshot : Snapshot}
    (hready : (c.see snapshot).lastSeen = some c.target) :
    HasScaled s (history ++ [⟨t, .answer .coordinator m (.reply (.ok snapshot))⟩]) := by
  have hreply := replyIn_fetching (m := m) hphase (.ok snapshot)
  refine ⟨c.handle, m, snapshot, hscaling.isHandle.concat _, ?_, ?_⟩
  · rw [replies_concat, hreply]
    exact List.mem_append_right _ (List.mem_singleton_self _)
  · rw [← hscaling.target]
    rcases Option.or_eq_some_iff.mp hready with hreported | ⟨_, hseen⟩
    · exact hreported
    · exact absurd hseen hscaling.unready

/-- A trial that has fetched its fleet starts the users if the fleet has scaled, and goes on to wait
for it or fails otherwise. -/
theorem course_fetched {c : Census} (hphase : t.phase = .scaling (.fetching c))
    (huntouched : IsUntouched history t) (hbegun : HasBegun s history)
    (hscaling : Scaling s history c) (snapshot : Snapshot) :
    Course s (history ++ [⟨t, .answer .coordinator m (.reply (.ok snapshot))⟩])
      (t.resumeCoordinator m (.reply (.ok snapshot))) := by
  by_cases hready : (c.see snapshot).lastSeen = some c.target
  · have hresume : t.resumeCoordinator m (.reply (.ok snapshot)) = t.beginUsers m := by
      simp only [resumeCoordinator, hphase, Readiness.resume, if_pos hready, awaitFleet]
    refine course_beyond hbegun (hscaling.hasScaled hphase hready) ?_
    rw [hresume]
    exact isBeyondSetup_launch _
  · have hresume : t.awaitFleet m ((c.see snapshot).next m.now) =
        t.resumeCoordinator m (.reply (.ok snapshot)) := by
      simp only [resumeCoordinator, hphase, Readiness.resume, if_neg hready]
    rw [← hresume]
    exact course_awaitFleet huntouched hbegun (hscaling.see hphase hready) hresume

/-- A trial that concludes is beyond the setup. -/
theorem isBeyondSetup_conclude (waited : Except TrialError Unit) :
    (t.conclude m waited).phase.IsBeyondSetup := by
  rcases conclude_eq (t := t) (m := m) waited with ⟨crash, heq⟩ | ⟨report, heq⟩ <;> rw [heq]
  · trivial
  · simp only
    split <;> trivial

/-- A trial that has started all its users stays beyond the setup. -/
theorem Move.isBeyondSetup (hmove : Move m t answer t') (hstarted : ¬t.phase.IsStarting) :
    t'.phase.IsBeyondSetup := by
  cases hmove with
  | prepared hbefore => exact absurd hbefore hstarted
  | launched _ hbefore => exact absurd hbefore hstarted
  | gathered _ hbefore => exact absurd hbefore hstarted
  | concluded => exact isBeyondSetup_conclude _
  | alarmed => trivial
  | cutOff => exact isBeyondSetup_conclude _
  | deleted => trivial
  | undeleted => trivial

/-- A trial beyond the setup of its fleet stays beyond it. -/
theorem isBeyondSetup_resume (hbeyond : t.phase.IsBeyondSetup)
    (hadmits : t.coordinatorWait.Admits answer) :
    (t.resumeCoordinator m answer).phase.IsBeyondSetup := by
  by_cases hstarting : t.phase.IsStarting
  · cases hphase : t.phase with
    | launching =>
      simp only [coordinatorWait, hphase] at hadmits
      cases hadmits
      simp only [resumeCoordinator, hphase]
      exact isBeyondSetup_launch t
    | idle | creating | scaling =>
      rw [hphase] at hbeyond
      exact absurd hbeyond id
    | joining | stopping | deleting | «over» | crashed =>
      rw [hphase] at hstarting
      exact absurd hstarting id
  · exact (move_resumeCoordinator hadmits).isBeyondSetup hstarting

/-- The coordinator keeps a trial on its course. -/
theorem Course.coordinate (hcourse : Course s history t) (hsetup : s.fleet.setup = true)
    (hsettings : t.settings = s) (hadmits : t.coordinatorWait.Admits answer) :
    Course s (history ++ [⟨t, .answer .coordinator m answer⟩]) (t.resumeCoordinator m answer) := by
  cases hcourse with
  | idle hphase huntouched hrequests hreplies =>
    simp only [coordinatorWait, hphase] at hadmits
    cases hadmits
    have hresume : { t with phase := .creating } = t.resumeCoordinator m .go := by
      simp only [resumeCoordinator, hphase, hsettings, hsetup, if_true]
    rw [← hresume]
    refine .creating rfl (huntouched.coordinate _ hresume) ⟨[], ?_, nofun⟩ ?_
    · rw [requests_concat, hrequests, requestIn_coordinator hresume]
      simp only [coordinatorWait, hsettings]
      rfl
    · rw [replies_concat, hreplies]
      rfl
  | creating hphase huntouched hbegun hreplies =>
    simp only [coordinatorWait, hphase] at hadmits
    cases hadmits with
    | replied _ result =>
      have hresume : t.resumeCoordinator m (.reply result) = t.created m result := by
        simp only [resumeCoordinator, hphase]
      rw [hresume]
      exact course_created hphase huntouched hbegun hreplies hsettings result
  | @scaling c _ hphase hreadiness huntouched hbegun hscaling =>
    rcases hreadiness with rfl | rfl
    · simp only [coordinatorWait, hphase] at hadmits
      cases hadmits
      have hresume : { t with phase := .scaling (.fetching c) } = t.resumeCoordinator m .go := by
        simp only [resumeCoordinator, hphase, Readiness.resume, awaitFleet]
      have hquiet : Scaling s (history ++ [⟨t, .answer .coordinator m .go⟩]) c :=
        hscaling.concat rfl
      rw [← hresume]
      refine .scaling rfl (.inr rfl) (huntouched.coordinate _ hresume) (hbegun.concat ?_) hquiet
      rw [requestIn_coordinator hresume]
      rintro r ⟨⟩
      exact hquiet.isHandle
    · simp only [coordinatorWait, hphase] at hadmits
      cases hadmits with
      | replied _ result =>
        cases result with
        | ok snapshot => exact course_fetched hphase huntouched hbegun hscaling snapshot
        | error e =>
          have hresume : { t with phase := .over (.error e) } =
              t.resumeCoordinator m (.reply (.error e)) := by
            simp only [resumeCoordinator, hphase, Readiness.resume, awaitFleet]
          rw [← hresume]
          refine .failed rfl (huntouched.coordinate _ hresume) (hbegun.concat ?_)
          rw [requestIn_coordinator hresume]
          nofun
  | failed hphase =>
    simp only [coordinatorWait, hphase] at hadmits
    cases hadmits
  | working hbeyond hbegun hscaled =>
    exact course_beyond hbegun (hscaled.concat _) (isBeyondSetup_resume hbeyond hadmits)

/-- What is requested in a scene of a user is what it waits for behind it. -/
theorem requestIn_user {id : Nat} {u u' : User} {entry : Entry} (hu : t.users[id]? = some u)
    (hresume : t.withUser id entry u' = t.resumeUser m answer id) :
    requestIn ⟨t, .answer (.user id) m answer⟩ =
      (u'.wait t.settings).request?.map (.user id, ·) := by
  have hself : (t.withUser id entry u').users[id]? = some u' :=
    List.getElem?_set_self (List.getElem?_eq_some_iff.mp hu).1
  have hwait : (t.resume m answer (.user id)).wait (.user id) = u'.wait t.settings := by
    rw [resume, ← hresume]
    simp only [wait, hself]
    rfl
  rw [← hwait]
  rfl

/-- On its course a trial has no users before the fleet has scaled. -/
theorem Course.of_user (hcourse : Course s history t) {id : Nat} {u : User}
    (hu : t.users[id]? = some u) :
    t.phase.IsBeyondSetup ∧ HasBegun s history ∧ HasScaled s history := by
  have hsome (huntouched : IsUntouched history t) : False := by
    rw [huntouched.users] at hu
    cases hu
  cases hcourse with
  | idle _ huntouched => exact (hsome huntouched).elim
  | creating _ huntouched => exact (hsome huntouched).elim
  | scaling _ _ huntouched => exact (hsome huntouched).elim
  | failed _ huntouched => exact (hsome huntouched).elim
  | working hbeyond hbegun hscaled => exact ⟨hbeyond, hbegun, hscaled⟩

/-- A user keeps a trial on its course. -/
theorem Course.work (hcourse : Course s history t) (hsettings : t.settings = s) {id : Nat}
    {u u' : User} {entry : Entry} (hu : t.users[id]? = some u)
    (hresume : t.withUser id entry u' = t.resumeUser m answer id) :
    Course s (history ++ [⟨t, .answer (.user id) m answer⟩]) (t.withUser id entry u') := by
  obtain ⟨hbeyond, hbegun, hscaled⟩ := hcourse.of_user hu
  refine .working hbeyond (hbegun.concat fun r hr => ?_) (hscaled.concat _)
  rw [requestIn_user hu hresume, hsettings] at hr
  obtain ⟨request, hrequest, rfl⟩ := Option.map_eq_some_iff.mp hr
  rcases User.request_cases hrequest with ⟨path, rfl⟩ | rfl
  · trivial
  · rfl

/-- A signal leaves a trial untouched that has no users. -/
theorem IsUntouched.signal (huntouched : IsUntouched history t) :
    IsUntouched (history ++ [⟨t, .signal⟩]) t.signalUsers where
  users := by rw [signalUsers, huntouched.users]; rfl
  tally := huntouched.tally
  report := huntouched.report
  requests r hr := by
    rw [requests_concat] at hr
    exact huntouched.requests r ((List.append_nil _).subst hr)

/-- A signal keeps a trial on its course. -/
theorem Course.signal (hcourse : Course s history t) :
    Course s (history ++ [⟨t, .signal⟩]) t.signalUsers := by
  have hrequests : requests (history ++ [⟨t, .signal⟩]) = requests history :=
    (requests_concat _ _).trans (List.append_nil _)
  have hreplies : replies (history ++ [⟨t, .signal⟩]) = replies history :=
    (replies_concat _ _).trans (List.append_nil _)
  have hbegun (hbegun : HasBegun s history) : HasBegun s (history ++ [⟨t, .signal⟩]) :=
    hbegun.concat nofun
  cases hcourse with
  | idle hphase huntouched hnone hnone' =>
    exact .idle hphase huntouched.signal (hrequests.trans hnone) (hreplies.trans hnone')
  | creating hphase huntouched hbefore hnone =>
    exact .creating hphase huntouched.signal (hbegun hbefore) (hreplies.trans hnone)
  | scaling hphase hreadiness huntouched hbefore hscaling =>
    exact .scaling hphase hreadiness huntouched.signal (hbegun hbefore) (hscaling.concat rfl)
  | failed hphase huntouched hbefore => exact .failed hphase huntouched.signal (hbegun hbefore)
  | working hbeyond hbefore hscaled =>
    exact .working hbeyond (hbegun hbefore) (hscaled.concat _)

/-- Every run keeps a trial on its course that sets up its fleet. -/
theorem course_of_run (hsetup : s.fleet.setup = true)
    (hrun : system.Run (create s) history t) : Course s history t := by
  refine induction_of_run hrun ?_ ?_ ?_ ?_
  · exact .idle rfl ⟨rfl, rfl, rfl, nofun⟩ rfl rfl
  · intro history t t' m answer hcourse hsettings _ hadmits hresume _
    rw [hresume]
    exact hcourse.coordinate hsetup hsettings hadmits
  · intro history t m answer unix id u u' hcourse hsettings _ hu _ _ hresume
    exact hcourse.work hsettings hu hresume
  · intro history t hcourse _ _
    exact hcourse.signal

end Trial

end FleetTrial
