import FleetTrial.Proofs.Trial.Accounts
import FleetTrial.Proofs.Trial.TrialMoves

/-!
# Reconciling the counters with the measurements

The counters of a trial count attempts, its labels count events, and neither knows of the other.
Along every run they agree all the same: a completed attempt is one of the two outcomes that the
control plane says, a failed one has timed out or ended in an error, and every number of ready
replicas belongs to an allocation that was granted and that something has become of since.
-/

namespace FleetTrial

namespace Trial

/-- What is entered in the tally in a scene. -/
def sceneEntry (scene : Scene Trial TrialCue) : Entry :=
  match scene.cue with
  | .answer (.user id) m answer =>
    match scene.before.users[id]? with
    | some u => u.entry scene.before.settings m answer
    | none => .blank
  | _ => .blank

/-- Whether an attempt ends in an error in a scene. -/
def endsInError (scene : Scene Trial TrialCue) : Bool := (sceneEntry scene).isError

/-- Whether a request for an allocation, of whatever task, is answered with a snapshot. -/
def isGranted (scene : Scene Trial TrialCue) : Bool :=
  match scene.cue with
  | .answer role _ answer =>
    (scene.before.wait role).grantsAt scene.before.settings.allocationsPath answer
  | .signal => false

/-- Whether an attempt that watches its allocation, or has just got it, ends in an error. -/
def failsWatch (scene : Scene Trial TrialCue) : Bool :=
  match scene.cue with
  | .answer (.user id) m answer =>
    scene.before.users[id]?.any fun u => u.failsWatch scene.before.settings m answer
  | _ => false

/-- The numbers of the users that watch an allocation. -/
def watchers (t : Trial) : List Nat := (t.users.filter User.isWatching).map (·.id)

/-- The numbers of the users that drop an allocation in a scene: one that a signal keeps from going
on, or all those that are cut off. -/
def dropped (scene : Scene Trial TrialCue) : List Nat :=
  match scene.cue with
  | .answer (.user id) m answer =>
    if scene.before.users[id]?.any (User.isDropped scene.before.settings m answer) then [id]
    else []
  | .answer .coordinator _ _ =>
    match scene.before.phase with
    | .stopping => scene.before.watchers
    | _ => []
  | .signal => []

/-- How a scene balances in which a trial becomes `t`. -/
structure Balanced (scene : Scene Trial TrialCue) (t : Trial) : Prop where
  entered : t.tally = scene.before.tally.enter (sceneEntry scene)
  tells : (sceneEntry scene).Tells (isGranted scene)
  allocations : (isGranted scene).toNat + scene.before.users.countP User.isWatching =
    (sceneEntry scene).isCompleted.toNat + (sceneEntry scene).isTimedOut.toNat +
      (failsWatch scene).toNat + (dropped scene).length + t.users.countP User.isWatching
  isOver : ∀ (id : Nat) (u : User), scene.before.users[id]? = some u → u.isOver = true →
    ∃ u' : User, t.users[id]? = some u' ∧ u'.isOver = true
  once : (dropped scene).Nodup
  dropped : ∀ id ∈ dropped scene,
    (∃ u : User, scene.before.users[id]? = some u ∧ u.isOver = false) ∧
      ∃ u' : User, t.users[id]? = some u' ∧ u'.isOver = true

variable {t t' : Trial} {m : Moment} {answer : Answer}

/-- No answer to the coordinator grants an allocation. -/
theorem not_grantsAt_coordinatorWait :
    t.coordinatorWait.grantsAt t.settings.allocationsPath answer = false := by
  unfold coordinatorWait
  cases t.phase with
  | creating =>
    have hpaths : t.settings.fleetsPath ≠ t.settings.allocationsPath := fun heq =>
      absurd ((String.append_right_inj _).mp heq) (by decide)
    rcases answer with _ | _ | _ | (_ | _) | _ | _
    case reply.ok => exact beq_eq_false_iff_ne.mpr hpaths
    all_goals rfl
  | scaling readiness => cases readiness <;> rfl
  | joining =>
    simp only
    split
    · rfl
    · split <;> rfl
  | stopping =>
    simp only
    split <;> rfl
  | _ => rfl

/-- A scene of the coordinator balances if it cuts nobody off and leaves users as they are. -/
theorem balanced_of_coordinator (hphase : t.phase ≠ .stopping)
    (htally : t'.tally = t.tally)
    (hwatching : t'.users.countP User.isWatching = t.users.countP User.isWatching)
    (hover : ∀ (id : Nat) (u : User), t.users[id]? = some u → u.isOver = true →
      ∃ u' : User, t'.users[id]? = some u' ∧ u'.isOver = true) :
    Balanced ⟨t, .answer .coordinator m answer⟩ t' := by
  have hgranted : isGranted ⟨t, .answer .coordinator m answer⟩ = false :=
    not_grantsAt_coordinatorWait
  have hdropped : Trial.dropped ⟨t, .answer .coordinator m answer⟩ = [] := by
    show (match t.phase with | .stopping => t.watchers | _ => []) = []
    split
    · exact absurd ‹_› hphase
    · rfl
  constructor
  case entered => exact htally
  case tells => exact hgranted ▸ ⟨rfl, rfl, rfl⟩
  case allocations =>
    rw [hgranted, hdropped, hwatching]
    exact (Nat.zero_add _).trans (Nat.zero_add _).symm
  case isOver => exact hover
  case once => rw [hdropped]; exact List.nodup_nil
  case dropped => rw [hdropped]; intro id hid; cases hid

/-- Whoever watches an allocation stands at its number, and is not over. -/
theorem IsOrderly.of_mem_watchers (horderly : t.IsOrderly) {id : Nat} (hid : id ∈ t.watchers) :
    ∃ u, t.users[id]? = some u ∧ u.isOver = false := by
  obtain ⟨u, hu, rfl⟩ := List.mem_map.mp hid
  obtain ⟨hmem, hwatching⟩ := List.mem_filter.mp hu
  obtain ⟨number, hnumber⟩ := List.getElem?_of_mem hmem
  refine ⟨u, ?_, ?_⟩
  · rw [(horderly number u hnumber).1]
    exact hnumber
  · refine Bool.eq_false_iff.mpr fun hover => ?_
    rw [User.isWatching_of_isOver hover] at hwatching
    cases hwatching

/-- A scene in which the users that are left are cut off balances. -/
theorem balanced_stopped (horderly : t.IsOrderly) (hphase : t.phase = .stopping) :
    Balanced ⟨t, .answer .coordinator m .go⟩ (t.stopped m) := by
  have hgranted : isGranted ⟨t, .answer .coordinator m .go⟩ = false :=
    not_grantsAt_coordinatorWait
  have hdropped : Trial.dropped ⟨t, .answer .coordinator m .go⟩ = t.watchers := by
    simp only [Trial.dropped, hphase]
  have husers : (t.stopped m).users = t.users.map User.abort := conclude_users _
  have hafter {id : Nat} {u : User} (hu : t.users[id]? = some u) :
      ∃ u' : User, (t.stopped m).users[id]? = some u' ∧ u'.isOver = true :=
    ⟨u.abort, by rw [husers, List.getElem?_map, hu]; rfl, User.isOver_abort u⟩
  constructor
  case entered => exact conclude_tally _
  case tells => exact hgranted ▸ ⟨rfl, rfl, rfl⟩
  case allocations =>
    have hnone : (t.users.map User.abort).countP User.isWatching = 0 := by
      refine List.countP_eq_zero.mpr fun u hu => ?_
      obtain ⟨v, _, rfl⟩ := List.mem_map.mp hu
      rw [User.isWatching_of_isOver (User.isOver_abort v)]
      exact Bool.false_ne_true
    rw [hgranted, hdropped, husers, hnone, watchers, List.length_map,
      ← List.countP_eq_length_filter]
    exact (Nat.zero_add _).trans (Nat.zero_add _).symm
  case isOver => exact fun id u hu _ => hafter hu
  case once =>
    rw [hdropped]
    exact (horderly.map_id ▸ List.nodup_range).sublist (List.filter_sublist.map _)
  case dropped =>
    rw [hdropped]
    intro id hid
    obtain ⟨u, hu, hover⟩ := horderly.of_mem_watchers hid
    exact ⟨⟨u, hu, hover⟩, hafter hu⟩

/-- Signals change nothing about who watches an allocation. -/
theorem countP_isWatching_signalUsers :
    t.signalUsers.users.countP User.isWatching = t.users.countP User.isWatching := List.countP_map

/-- Signals change nothing about who is over. -/
theorem isOver_signalUsers {id : Nat} {u : User} (hu : t.users[id]? = some u)
    (hover : u.isOver = true) :
    ∃ u' : User, t.signalUsers.users[id]? = some u' ∧ u'.isOver = true :=
  ⟨u.signal, by simp only [signalUsers, List.getElem?_map, hu, Option.map_some], hover⟩

/-- Every scene of the coordinator balances. -/
theorem Move.balanced (hmove : Move m t answer t') (horderly : t.IsOrderly) :
    Balanced ⟨t, .answer .coordinator m answer⟩ t' := by
  cases hmove with
  | prepared hbefore =>
    exact balanced_of_coordinator hbefore.ne_stopping rfl rfl fun _ u hu hover => ⟨u, hu, hover⟩
  | launched startedAt hbefore =>
    refine balanced_of_coordinator hbefore.ne_stopping rfl ?_ fun _ u hu hover => ⟨u, ?_, hover⟩
    · rw [List.countP_append, List.countP_singleton, User.isWatching_create]
      rfl
    · rw [List.getElem?_append_left (List.getElem?_eq_some_iff.mp hu).1]
      exact hu
  | gathered startedAt hbefore =>
    exact balanced_of_coordinator hbefore.ne_stopping rfl rfl fun _ u hu hover => ⟨u, hu, hover⟩
  | concluded hphase =>
    refine balanced_of_coordinator (by simp [hphase]) (conclude_tally _) ?_ ?_
    · rw [conclude_users]
    · rw [conclude_users]
      exact fun _ u hu hover => ⟨u, hu, hover⟩
  | alarmed hphase =>
    exact balanced_of_coordinator (by simp [hphase]) rfl countP_isWatching_signalUsers
      fun _ _ => isOver_signalUsers
  | cutOff hphase => exact balanced_stopped horderly hphase
  | deleted hphase | undeleted hphase =>
    exact balanced_of_coordinator (by simp [hphase]) rfl rfl fun _ u hu hover => ⟨u, hu, hover⟩

/-- A scene in which signals come balances. -/
theorem balanced_signal : Balanced ⟨t, .signal⟩ t.signalUsers where
  entered := rfl
  tells := ⟨rfl, rfl, rfl⟩
  allocations := by
    rw [countP_isWatching_signalUsers]
    exact (Nat.zero_add _).trans (Nat.zero_add _).symm
  isOver _ _ := isOver_signalUsers
  once := List.nodup_nil
  dropped id hid := by cases hid

/-- Every scene of a user balances. -/
theorem balanced_withUser {unix : Int × Int} {id : Nat} {u u' : User} (hu : t.users[id]? = some u)
    (hadmits : u.Admits t.settings answer)
    (hmove : User.Move t.settings m unix u answer (u.entry t.settings m answer) u') :
    Balanced ⟨t, .answer (.user id) m answer⟩
      (t.withUser id (u.entry t.settings m answer) u') := by
  have hentry : sceneEntry ⟨t, .answer (.user id) m answer⟩ = u.entry t.settings m answer := by
    simp only [sceneEntry, hu]
  have hgranted : isGranted ⟨t, .answer (.user id) m answer⟩ = u.isGranted t.settings answer := by
    simp only [isGranted, wait, hu, User.isGranted]
  have hfails : failsWatch ⟨t, .answer (.user id) m answer⟩ =
      u.failsWatch t.settings m answer := by
    simp only [failsWatch, hu, Option.any_some]
  have hdropped : Trial.dropped ⟨t, .answer (.user id) m answer⟩ =
      if u.isDropped t.settings m answer then [id] else [] := by
    simp only [Trial.dropped, hu, Option.any_some]
  have hlength : (if u.isDropped t.settings m answer then [id] else []).length =
      (u.isDropped t.settings m answer).toNat := by
    cases u.isDropped t.settings m answer <;> rfl
  have hset := countP_set_add hu u' User.isWatching
  have hself : (t.withUser id (u.entry t.settings m answer) u').users[id]? = some u' :=
    List.getElem?_set_self (List.getElem?_eq_some_iff.mp hu).1
  obtain ⟨htells, hallocations⟩ := hmove.balances
  constructor
  case entered => rw [hentry]; rfl
  case tells => rw [hentry, hgranted]; exact htells
  case allocations =>
    rw [hentry, hgranted, hfails, hdropped, hlength]
    simp only [withUser, User.failsWatch]
    omega
  case isOver =>
    intro number v hv hover
    by_cases hnumber : id = number
    · subst hnumber
      cases hu.symm.trans hv
      rw [hadmits.isOver_eq_false] at hover
      cases hover
    · exact ⟨v, (List.getElem?_set_ne hnumber).trans hv, hover⟩
  case once =>
    rw [hdropped]
    split
    · exact List.pairwise_singleton _ id
    · exact List.nodup_nil
  case dropped =>
    rw [hdropped]
    intro number hnumber
    split at hnumber
    · cases List.mem_singleton.mp hnumber
      exact ⟨⟨u, hu, hadmits.isOver_eq_false⟩, u', hself, hmove.isOver_of_isDropped ‹_›⟩
    · cases hnumber

/-- The entries of some scenes. -/
def entriesIn (history : List (Scene Trial TrialCue)) : List Entry := history.map sceneEntry

/-- What is known of a trial that `history` has led to. -/
structure Booked (history : List (Scene Trial TrialCue)) (t : Trial) : Prop where
  entered : t.tally = Tally.empty.enterAll (entriesIn history)
  completed :
    countLabel Outcome.allocated.label ((entriesIn history).flatMap Entry.events) +
      countLabel Outcome.unallocated.label ((entriesIn history).flatMap Entry.events) =
        (entriesIn history).countP Entry.isCompleted
  timedOut : countLabel Outcome.timedOut.label ((entriesIn history).flatMap Entry.events) =
    (entriesIn history).countP Entry.isTimedOut
  replicas : countLabel Event.readyReplicasLabel ((entriesIn history).flatMap Entry.events) =
    history.countP isGranted
  allocations : history.countP isGranted =
    (entriesIn history).countP Entry.isCompleted + (entriesIn history).countP Entry.isTimedOut +
      history.countP failsWatch + (history.flatMap Trial.dropped).length +
      t.users.countP User.isWatching
  isOver : ∀ id ∈ history.flatMap Trial.dropped,
    ∃ u : User, t.users[id]? = some u ∧ u.isOver = true
  once : (history.flatMap Trial.dropped).Nodup

/-- A trial that has not begun has nothing to book. -/
theorem booked_create (s : Settings) : Booked [] (create s) :=
  ⟨rfl, rfl, rfl, rfl, rfl, fun _ hid => (List.not_mem_nil hid).elim, List.nodup_nil⟩

/-- The last of some scenes is counted on top of the others. -/
theorem countP_concat {α : Type} (p : α → Bool) (l : List α) (a : α) :
    (l ++ [a]).countP p = l.countP p + (p a).toNat := by
  rw [List.countP_append, List.countP_singleton]
  cases p a <;> rfl

/-- A balanced scene is booked on top of the others. -/
theorem Booked.concat {history : List (Scene Trial TrialCue)} {scene : Scene Trial TrialCue}
    (hbooked : Booked history scene.before) (hbalanced : Balanced scene t) :
    Booked (history ++ [scene]) t := by
  have hentries : entriesIn (history ++ [scene]) = entriesIn history ++ [sceneEntry scene] :=
    List.map_append
  have hlabel (label : String) :
      countLabel label ((entriesIn (history ++ [scene])).flatMap Entry.events) =
        countLabel label ((entriesIn history).flatMap Entry.events) +
          countLabel label (sceneEntry scene).events := by
    rw [hentries, List.flatMap_append, List.flatMap_singleton]
    exact List.countP_append
  have hdropped : (history ++ [scene]).flatMap Trial.dropped =
      history.flatMap Trial.dropped ++ Trial.dropped scene := by
    rw [List.flatMap_append, List.flatMap_singleton]
  constructor
  case entered =>
    rw [hentries, Tally.enterAll_concat, ← hbooked.entered]
    exact hbalanced.entered
  case completed =>
    rw [hlabel, hlabel, hentries, countP_concat, ← hbooked.completed, ← hbalanced.tells.completed]
    omega
  case timedOut =>
    rw [hlabel, hentries, countP_concat, ← hbooked.timedOut, ← hbalanced.tells.timedOut]
  case replicas =>
    rw [hlabel, countP_concat, ← hbooked.replicas, ← hbalanced.tells.replicas]
  case allocations =>
    have hbefore := hbooked.allocations
    have hscene := hbalanced.allocations
    rw [hentries, hdropped, List.length_append]
    simp only [countP_concat]
    omega
  case isOver =>
    rw [hdropped]
    intro id hid
    rcases List.mem_append.mp hid with hold | hnew
    · obtain ⟨u, hu, hover⟩ := hbooked.isOver id hold
      exact hbalanced.isOver id u hu hover
    · exact (hbalanced.dropped id hnew).2
  case once =>
    -- Whoever has dropped an allocation is over, and only users that are not over drop one.
    rw [hdropped]
    refine List.nodup_append.mpr ⟨hbooked.once, hbalanced.once, fun id hold number hnew => ?_⟩
    rintro rfl
    obtain ⟨u, hu, hover⟩ := hbooked.isOver id hold
    obtain ⟨⟨v, hv, hbusy⟩, _⟩ := hbalanced.dropped id hnew
    cases hu.symm.trans hv
    rw [hover] at hbusy
    cases hbusy

/-- Along a run every scene balances, and all of them are booked. -/
theorem booked_of_run {s : Settings} {history : List (Scene Trial TrialCue)}
    (hrun : system.Run (create s) history t) : t.IsOrderly ∧ Booked history t := by
  induction hrun with
  | nil => exact ⟨isOrderly_create s, booked_create s⟩
  | @snoc scenes a cue _ hallows ih =>
    obtain ⟨horderly, hbooked⟩ := ih
    rcases cue with ⟨role, m, answer⟩ | _
    · obtain ⟨⟨unix, hunix⟩, hadmits⟩ := hallows
      cases role with
      | coordinator =>
        have hmove : Move m a answer (a.resumeCoordinator m answer) :=
          move_resumeCoordinator hadmits
        exact ⟨hmove.isOrderly horderly, hbooked.concat (hmove.balanced horderly)⟩
      | user id =>
        obtain ⟨u, hu, hadmits⟩ := hadmits
        obtain ⟨u', heq, hmove⟩ := resumeUser_eq hu (horderly id u hu).2 hunix hadmits
        have hnext : (system.perform (.answer (.user id) m answer) a) =
            a.withUser id (u.entry a.settings m answer) u' := heq
        rw [hnext]
        exact ⟨horderly.withUser hu hmove,
          hbooked.concat (balanced_withUser hu hadmits hmove)⟩
    · exact ⟨horderly.signalUsers, hbooked.concat balanced_signal⟩

/-- How the counters and the measurements of a trial agree when `history` has led to it. -/
structure Reconciled (history : List (Scene Trial TrialCue)) (t : Trial) : Prop where
  /-- Completed attempts are those whose outcome the control plane has said. -/
  completed : t.tally.completed = UInt64.ofNat
    (t.tally.countOf Outcome.allocated.label + t.tally.countOf Outcome.unallocated.label)
  /-- Failed attempts are those that have timed out and those that have ended in an error. -/
  failed : t.tally.failed = UInt64.ofNat
    (t.tally.countOf Outcome.timedOut.label + history.countP endsInError)
  /-- Ready replicas are measured once for each request that was answered with an allocation. -/
  replicas : t.tally.countOf Event.readyReplicasLabel = history.countP isGranted
  /-- Each allocation has got an outcome, or watching it has failed, or its user has dropped it, or
  its user watches it still. -/
  allocations : history.countP isGranted =
    t.tally.countOf Outcome.allocated.label + t.tally.countOf Outcome.unallocated.label +
      t.tally.countOf Outcome.timedOut.label + history.countP failsWatch +
      (history.flatMap dropped).length + t.users.countP User.isWatching
  /-- No user drops more than one allocation. -/
  once : (history.flatMap dropped).Nodup
  /-- Once the trial has reported, or all its users are over, nobody watches an allocation. -/
  settled : t.report.isSome = true ∨ t.allOver = true → t.users.countP User.isWatching = 0

/-- **Counters and measurements reconcile.** They do so along every run of a trial, whatever the
control plane answers, whatever order the tasks go on in and whenever signals come. -/
theorem counters_reconcile {s : Settings} {history : List (Scene Trial TrialCue)}
    (hrun : system.Run (create s) history t) : Reconciled history t := by
  have hbooked := (booked_of_run hrun).2
  have hcountOf (label : String) : t.tally.countOf label =
      countLabel label ((entriesIn history).flatMap Entry.events) := by
    rw [hbooked.entered]
    exact Tally.countOf_enterAll label _
  have herrors : (entriesIn history).countP Entry.isFailed =
      (entriesIn history).countP Entry.isTimedOut + history.countP endsInError := by
    rw [Entry.countP_isFailed]
    exact congrArg _ List.countP_map
  constructor
  case completed =>
    rw [hcountOf, hcountOf, hbooked.completed, hbooked.entered, Tally.enterAll_completed]
    exact UInt64.zero_add _
  case failed =>
    rw [hcountOf, hbooked.timedOut, ← herrors, hbooked.entered, Tally.enterAll_failed]
    exact UInt64.zero_add _
  case replicas => rw [hcountOf, hbooked.replicas]
  case allocations =>
    rw [hcountOf, hcountOf, hcountOf, hbooked.completed, hbooked.timedOut]
    exact hbooked.allocations
  case once => exact hbooked.once
  case settled =>
    intro hsettled
    have hover : t.allOver = true :=
      hsettled.elim (fun hreported => (isSettled_of_run hrun hreported).1) id
    refine List.countP_eq_zero.mpr fun u hu => ?_
    rw [User.isWatching_of_isOver (List.all_eq_true.mp hover u hu)]
    exact Bool.false_ne_true

/-- A signal makes the only user of a trial drop the allocation that it has just been granted. -/
theorem counters_reconcile_of_dropped_allocation :
    ∃ history t, system.Run (create (.small 1 2)) history t ∧
      t.tally.countOf Event.readyReplicasLabel = 1 ∧ history.flatMap dropped = [0] ∧
      Reconciled history t := by
  have hmoment := Moment.isReadable_origin
  have hallows : system.AllowsAll (create (.small 1 2))
      [.answer .coordinator .origin .go, .answer (.user 0) .origin .go,
        .answer (.user 0) .origin (.reply (.ok (.withReady "fleet" 3))),
        .answer (.user 0) .origin (.reply (.ok (.pending "allocation"))), .signal,
        .answer (.user 0) .origin .interrupted] :=
    ⟨⟨hmoment, .turn⟩, ⟨hmoment, _, rfl, .answered .turn⟩,
      ⟨hmoment, _, rfl, .answered (.replied _ _)⟩, ⟨hmoment, _, rfl, .answered (.replied _ _)⟩,
      trivial, ⟨hmoment, _, rfl, .interrupted rfl⟩, trivial⟩
  have hrun := System.Run.of_allowsAll hallows
  exact ⟨_, _, hrun, rfl, rfl, counters_reconcile hrun⟩

end Trial

end FleetTrial
