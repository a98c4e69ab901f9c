import FleetTrial.Proofs.Trial.UserMoves
import FleetTrial.Trial.Basic
import Mathlib.Algebra.GroupWithZero.Nat

/-!
# The moves of a trial

Whatever comes to the coordinator, it makes one of seven moves: it prepares the fleet, starts one
more user, finds that there are no more, concludes when all users are over, sends a signal to those
that are late, cuts off those that are left, or has the fleet deleted. The users make their own
moves, and a signal from outside may come to all of them at any time.
-/

namespace FleetTrial

/-- What may come to a trial. -/
inductive TrialCue
  | answer (role : Role) (m : Moment) (answer : Answer)
  /-- A signal to shut down, which all users get that have been started. -/
  | signal

/-- Whether a phase comes before all users have been started. -/
def Phase.IsStarting : Phase → Prop
  | .idle | .creating | .scaling _ | .launching => True
  | _ => False

/-- Whether a phase comes behind the report. -/
def Phase.IsConcluded : Phase → Prop
  | .deleting _ | .over _ => True
  | _ => False

/-- A trial that is starting its users has not concluded. -/
theorem Phase.IsStarting.not_isConcluded {phase : Phase} (hstarting : phase.IsStarting) :
    ¬phase.IsConcluded := by
  intro hconcluded
  cases phase <;> trivial

/-- A trial that is starting its users does not cut any off. -/
theorem Phase.IsStarting.ne_stopping {phase : Phase} (hstarting : phase.IsStarting) :
    phase ≠ .stopping := by
  rintro rfl
  exact hstarting

namespace Trial

variable {t t' : Trial} {m : Moment} {answer : Answer}

/-- The moves of the coordinator: the answer it gets, and the trial behind it. -/
inductive Move (m : Moment) (t : Trial) : Answer → Trial → Prop
  | prepared {answer : Answer} {phase : Phase} (hbefore : t.phase.IsStarting)
    (hafter : phase.IsStarting ∨ ∃ e, phase = .over (.error e)) : Move m t answer { t with phase }
  | launched {answer : Answer} (startedAt : Duration)
    (hbefore : t.phase.IsStarting)
    (hmore : t.users.length < t.settings.crowd.users) :
    Move m t answer { t with
      startedAt, phase := .launching
      users := t.users ++ [User.create t.settings t.users.length] }
  | gathered {answer : Answer} (startedAt : Duration)
    (hbefore : t.phase.IsStarting)
    (hall : t.settings.crowd.users ≤ t.users.length) :
    Move m t answer { t with startedAt, phase := .joining }
  | concluded (hphase : t.phase = .joining) (hover : t.allOver = true) :
    Move m t .go (t.conclude m (.ok ()))
  | alarmed (hphase : t.phase = .joining) (hlate : t.allOver = false)
    (hpatience : patience t.settings ≠ none) :
    Move m t .go { t.signalUsers with phase := .stopping }
  | cutOff (hphase : t.phase = .stopping) : Move m t .go (t.stopped m)
  | deleted {waited : Except TrialError Unit} (hphase : t.phase = .deleting waited)
    (snapshot : Snapshot) : Move m t (.reply (.ok snapshot)) { t with phase := .over waited }
  | undeleted {waited : Except TrialError Unit} (hphase : t.phase = .deleting waited)
    (e : TrialError) : Move m t (.reply (.error e)) { t with phase := .over (.error e) }

/-- A trial that starts a user or finds none left makes a move. -/
theorem move_launch (startedAt : Duration) (hbefore : t.phase.IsStarting) :
    Move m t answer { t with startedAt }.launch := by
  unfold launch
  split
  · exact .launched startedAt hbefore ‹_›
  · exact .gathered startedAt hbefore (Nat.not_lt.mp ‹_›)

/-- A trial that goes on to wait for its fleet makes a move. -/
theorem move_awaitFleet (hbefore : t.phase.IsStarting) (readiness : Readiness) :
    Move m t answer (t.awaitFleet m readiness) := by
  unfold awaitFleet
  split
  · exact move_launch m.wall hbefore
  · exact .prepared hbefore (.inr ⟨_, rfl⟩)
  · exact .prepared hbefore (.inl trivial)

/-- A trial that has created its fleet makes a move. -/
theorem move_created (hbefore : t.phase.IsStarting) (result : Except TrialError Snapshot) :
    Move m t answer (t.created m result) := by
  unfold created
  split
  · exact move_awaitFleet hbefore _
  · split
    · exact move_awaitFleet hbefore _
    · exact .prepared hbefore (.inr ⟨_, rfl⟩)
  · exact .prepared hbefore (.inr ⟨_, rfl⟩)

/-- Whatever comes to the coordinator, it makes one of its moves. -/
theorem move_resumeCoordinator (hadmits : t.coordinatorWait.Admits answer) :
    Move m t answer (t.resumeCoordinator m answer) := by
  unfold coordinatorWait at hadmits
  unfold resumeCoordinator
  cases hphase : t.phase with
  | idle =>
    simp only [hphase] at hadmits
    cases hadmits
    have hbefore : t.phase.IsStarting := hphase ▸ trivial
    simp only
    split
    · exact .prepared hbefore (.inl trivial)
    · exact move_launch m.wall hbefore
  | creating =>
    simp only [hphase] at hadmits
    cases hadmits
    exact move_created (hphase ▸ trivial) _
  | scaling readiness =>
    simp only [hphase] at hadmits
    have hcrash := hadmits.ordinary.2
    have hmove : Move m t answer (t.awaitFleet m (readiness.resume m.now answer)) :=
      move_awaitFleet (hphase ▸ trivial) _
    cases answer with
    | crashed crash => exact absurd rfl (hcrash crash)
    | _ => exact hmove
  | launching =>
    simp only [hphase] at hadmits
    cases hadmits
    exact move_launch t.startedAt (hphase ▸ trivial)
  | joining =>
    have hgo : answer = .go := by
      simp only [hphase] at hadmits
      split at hadmits
      · cases hadmits; rfl
      · split at hadmits
        · cases hadmits
        · cases hadmits; rfl
    subst hgo
    simp only [joined]
    cases hover : t.allOver with
    | true => exact .concluded hphase hover
    | false =>
      refine .alarmed hphase hover fun hnone => ?_
      simp only [hphase, hover, hnone] at hadmits
      cases hadmits
  | stopping =>
    have hgo : answer = .go := by
      simp only [hphase] at hadmits
      split at hadmits
      · cases hadmits; rfl
      · cases hadmits; rfl
    subst hgo
    exact .cutOff hphase
  | deleting waited =>
    simp only [hphase] at hadmits
    cases hadmits with
    | replied _ result =>
      cases result with
      | ok snapshot => exact .deleted hphase snapshot
      | error e => exact .undeleted hphase e
  | «over» result | crashed crash =>
    simp only [hphase] at hadmits
    cases hadmits

/-- What may come to a task of a trial. -/
def Admits (t : Trial) (role : Role) (answer : Answer) : Prop :=
  match role with
  | .coordinator => t.coordinatorWait.Admits answer
  | .user id => ∃ u, t.users[id]? = some u ∧ u.Admits t.settings answer

/-- A trial at work: its tasks go on in any order, and signals come at any time. -/
def system : System Trial TrialCue where
  Allows t cue :=
    match cue with
    | .answer role m answer => m.IsReadable ∧ t.Admits role answer
    | .signal => True
  perform cue t :=
    match cue with
    | .answer role m answer => t.resume m answer role
    | .signal => t.signalUsers

/-- A trial with one user in the place of another, which has made an entry in the tally. -/
def withUser (id : Nat) (entry : Entry) (u : User) (t : Trial) : Trial :=
  { t with tally := t.tally.enter entry, users := t.users.set id u }

/-- Whatever comes to a user of a trial, the user makes one of its moves, and nothing else changes
than the user and the tally. -/
theorem resumeUser_eq {unix : Int × Int} {id : Nat} {u : User} (hu : t.users[id]? = some u)
    (hkept : u.IsKept) (hunix : m.Shows unix) (hadmits : u.Admits t.settings answer) :
    ∃ u', t.resumeUser m answer id = t.withUser id (u.entry t.settings m answer) u' ∧
      User.Move t.settings m unix u answer (u.entry t.settings m answer) u' := by
  obtain ⟨hentered, hmove⟩ := hkept.move_resume hunix hadmits t.tally
  refine ⟨_, ?_, hmove⟩
  simp only [resumeUser, hu, withUser, hentered]

/-- A trial that concludes leaves its users as they are. -/
theorem conclude_users (waited : Except TrialError Unit) :
    (t.conclude m waited).users = t.users := by
  unfold conclude
  split <;> rfl

/-- A trial that concludes leaves its tally as it is. -/
theorem conclude_tally (waited : Except TrialError Unit) :
    (t.conclude m waited).tally = t.tally := by
  unfold conclude
  split <;> rfl

/-- A trial that concludes reports, unless it crashes. -/
theorem conclude_eq (waited : Except TrialError Unit) :
    (∃ crash, t.conclude m waited = { t with phase := .crashed crash }) ∨
      ∃ report, t.conclude m waited = { t with
        report := some report
        phase := if t.settings.fleet.deleteOnExit then .deleting waited else .over waited } := by
  unfold conclude
  split
  · exact .inl ⟨_, rfl⟩
  · exact .inr ⟨_, rfl⟩

end Trial

/-- What the elements of a list add up to once one of them has been replaced. -/
theorem sum_map_set_add {α : Type} {l : List α} {i : Nat} {a : α} (ha : l[i]? = some a) (b : α)
    (f : α → Nat) : ((l.set i b).map f).sum + f a = (l.map f).sum + f b := by
  induction l generalizing i with
  | nil => cases ha
  | cons x l ih =>
    cases i with
    | zero =>
      cases ha
      simp only [List.set_cons_zero, List.map_cons, List.sum_cons]
      omega
    | succ i =>
      have hrest := ih (i := i) ha
      simp only [List.set_cons_succ, List.map_cons, List.sum_cons]
      omega

/-- Each element with a property adds one to their number. -/
theorem countP_eq_sum {α : Type} (p : α → Bool) (l : List α) :
    l.countP p = (l.map fun a => (p a).toNat).sum := by
  induction l with
  | nil => rfl
  | cons a l ih =>
    rw [List.countP_cons, List.map_cons, List.sum_cons, ih]
    cases p a <;> simp [Nat.add_comm]

/-- How many elements have a property once one of them has been replaced. -/
theorem countP_set_add {α : Type} {l : List α} {i : Nat} {a : α} (ha : l[i]? = some a) (b : α)
    (p : α → Bool) : (l.set i b).countP p + (p a).toNat = l.countP p + (p b).toNat := by
  rw [countP_eq_sum, countP_eq_sum]
  exact sum_map_set_add ha b fun a => (p a).toNat

/-- Whether each of some users is as its number wants it to be. -/
def EachUser (P : Nat → User → Prop) (users : List User) : Prop :=
  ∀ id u, users[id]? = some u → P id u

namespace EachUser

variable {P Q : Nat → User → Prop} {users : List User}

/-- One user in the place of another. -/
theorem set (heach : EachUser P users) {id : Nat} {u : User} (hu : P id u) :
    EachUser P (users.set id u) := by
  intro number v hv
  rw [List.getElem?_set] at hv
  split at hv
  · rename_i hnumber
    split at hv
    · cases hv
      exact hnumber ▸ hu
    · cases hv
  · exact heach number v hv

/-- All users change in the same way. -/
theorem map (heach : EachUser P users) {f : User → User} (hf : ∀ id u, P id u → Q id (f u)) :
    EachUser Q (users.map f) := by
  intro number v hv
  rw [List.getElem?_map] at hv
  obtain ⟨u, hu, rfl⟩ := Option.map_eq_some_iff.mp hv
  exact hf number u (heach number u hu)

/-- One more user. -/
theorem concat (heach : EachUser P users) {u : User} (hu : P users.length u) :
    EachUser P (users ++ [u]) := by
  intro number v hv
  rcases Nat.lt_trichotomy number users.length with hlt | rfl | hgt
  · rw [List.getElem?_append_left hlt] at hv
    exact heach number v hv
  · rw [List.getElem?_concat_length] at hv
    cases hv
    exact hu
  · rw [List.getElem?_eq_none (by rw [List.length_append]; exact hgt)] at hv
    cases hv

end EachUser

namespace Trial

variable {t t' : Trial} {m : Moment} {answer : Answer}

/-- Whether the users of a trial bear their numbers, and are wired as they should be. -/
def IsOrderly (t : Trial) : Prop := EachUser (fun id u => u.id = id ∧ u.IsKept) t.users

/-- The users of a trial bear the first numbers in order. -/
theorem IsOrderly.map_id (horderly : t.IsOrderly) :
    t.users.map (·.id) = List.range t.users.length := by
  refine List.ext_getElem? fun id => ?_
  rw [List.getElem?_map]
  cases hu : t.users[id]? with
  | none =>
    have hlength : t.users.length ≤ id := List.getElem?_eq_none_iff.mp hu
    rw [List.getElem?_eq_none (by rwa [List.length_range])]
    rfl
  | some u =>
    have hlength : id < t.users.length := (List.getElem?_eq_some_iff.mp hu).1
    rw [List.getElem?_range hlength, Option.map_some, (horderly id u hu).1]

/-- A trial that has not begun is orderly. -/
theorem isOrderly_create (s : Settings) : (create s).IsOrderly := by
  intro id u hu
  cases hu

/-- A user that makes a move leaves a trial orderly. -/
theorem IsOrderly.withUser (horderly : t.IsOrderly) {unix : Int × Int} {id : Nat} {u u' : User}
    {entry : Entry} (hu : t.users[id]? = some u)
    (hmove : User.Move t.settings m unix u answer entry u') :
    (Trial.withUser id entry u' t).IsOrderly := by
  obtain ⟨hid, hkept⟩ := horderly id u hu
  exact EachUser.set horderly ⟨hmove.id_eq.trans hid, hmove.isKept hkept⟩

/-- Signals leave a trial orderly. -/
theorem IsOrderly.signalUsers (horderly : t.IsOrderly) : t.signalUsers.IsOrderly :=
  EachUser.map horderly fun _ _ hu => hu

/-- A move of the coordinator leaves a trial orderly. -/
theorem Move.isOrderly (hmove : Move m t answer t') (horderly : t.IsOrderly) : t'.IsOrderly := by
  have hconclude (waited : Except TrialError Unit) {t : Trial} (horderly : t.IsOrderly) :
      (t.conclude m waited).IsOrderly := by
    rcases conclude_eq waited with ⟨crash, heq⟩ | ⟨report, heq⟩
    · rw [heq]
      exact horderly
    · rw [heq]
      exact horderly
  cases hmove with
  | prepared => exact horderly
  | launched => exact EachUser.concat horderly ⟨rfl, (User.isSane_create _ _).1⟩
  | gathered => exact horderly
  | concluded => exact hconclude _ horderly
  | alarmed => exact horderly.signalUsers
  | cutOff =>
    exact hconclude _ (EachUser.map horderly fun id u hu =>
      ⟨(User.id_abort u).trans hu.1, hu.2.abort⟩)
  | deleted => exact horderly
  | undeleted => exact horderly

/-- Whether a trial has concluded if it has reported, with all its users over. -/
def IsSettled (t : Trial) : Prop := t.report.isSome = true → t.allOver = true ∧ t.phase.IsConcluded

/-- A settled trial has not reported before it concludes. -/
theorem IsSettled.report_eq_none (hsettled : t.IsSettled) (hphase : ¬t.phase.IsConcluded) :
    t.report = none := by
  cases hreport : t.report with
  | none => rfl
  | some report => exact absurd (hsettled (by rw [hreport]; rfl)).2 hphase

/-- A trial that concludes with all its users over is settled. -/
theorem isSettled_conclude (waited : Except TrialError Unit) (hreport : t.report = none)
    (hover : t.allOver = true) : (t.conclude m waited).IsSettled := by
  rcases conclude_eq waited with ⟨crash, heq⟩ | ⟨report, heq⟩ <;> rw [heq] <;> intro hreported
  · simp only [hreport] at hreported
    cases hreported
  · refine ⟨hover, ?_⟩
    simp only
    split <;> trivial

/-- Users that have been cut off are all over. -/
theorem all_isOver_abort (users : List User) : (users.map User.abort).all User.isOver = true := by
  refine List.all_eq_true.mpr fun u hu => ?_
  obtain ⟨v, _, rfl⟩ := List.mem_map.mp hu
  exact User.isOver_abort v

/-- A move of the coordinator leaves a trial settled. -/
theorem Move.isSettled (hmove : Move m t answer t') (hsettled : t.IsSettled) : t'.IsSettled := by
  have hnone := hsettled.report_eq_none
  cases hmove with
  | prepared hbefore | launched _ hbefore | gathered _ hbefore =>
    intro hreported
    simp only [hnone hbefore.not_isConcluded] at hreported
    cases hreported
  | concluded hphase hover => exact isSettled_conclude _ (hnone (hphase ▸ id)) hover
  | alarmed hphase =>
    intro hreported
    simp only [signalUsers, hnone (hphase ▸ id)] at hreported
    cases hreported
  | cutOff hphase =>
    exact isSettled_conclude _ (hnone (hphase ▸ id)) (all_isOver_abort t.users)
  | deleted => exact fun hreported => ⟨(hsettled hreported).1, trivial⟩
  | undeleted => exact fun hreported => ⟨(hsettled hreported).1, trivial⟩

/-- Signals do not change whether all users are over. -/
theorem allOver_signalUsers : t.signalUsers.allOver = t.allOver := List.all_map

/-- Nothing comes to a user of a trial whose users are all over. -/
theorem not_admits_user {id : Nat} (hover : t.allOver = true) : ¬t.Admits (.user id) answer := by
  rintro ⟨u, hu, hadmits⟩
  have huser := List.all_eq_true.mp hover u (List.mem_of_getElem? hu)
  rw [hadmits.isOver_eq_false] at huser
  cases huser

/-- Every run leaves a trial settled. -/
theorem isSettled_of_run {s : Settings} {history : List (Scene Trial TrialCue)}
    (hrun : system.Run (create s) history t) : t.IsSettled := by
  refine hrun.keeps (fun hreported => by cases hreported) fun t cue hsettled hallows => ?_
  rcases cue with ⟨role, m, answer⟩ | _
  · cases role with
    | coordinator =>
      have hmove : Move m t answer (t.resumeCoordinator m answer) :=
        move_resumeCoordinator hallows.2
      exact hmove.isSettled hsettled
    | user id =>
      intro hreported
      have hreport : (t.resumeUser m answer id).report = t.report := by
        unfold resumeUser
        split <;> rfl
      have hbefore : t.report.isSome = true := hreport ▸ hreported
      exact absurd hallows.2 (not_admits_user (hsettled hbefore).1)
  · intro hreported
    obtain ⟨hover, hconcluded⟩ := hsettled hreported
    exact ⟨allOver_signalUsers.trans hover, hconcluded⟩

/-- A trial that concludes keeps its settings. -/
theorem conclude_settings (waited : Except TrialError Unit) :
    (t.conclude m waited).settings = t.settings := by
  unfold conclude
  split <;> rfl

/-- A move of the coordinator leaves a trial its settings. -/
theorem Move.settings_eq (hmove : Move m t answer t') : t'.settings = t.settings := by
  cases hmove with
  | concluded => exact conclude_settings _
  | cutOff => exact conclude_settings _
  | _ => rfl

/-- What holds of each user, of a new one too, and whether or not a signal comes to it or it is cut
off, holds of each user behind a move of the coordinator. -/
theorem Move.eachUser (hmove : Move m t answer t') {P : Nat → User → Prop}
    (heach : EachUser P t.users)
    (hcreate : P t.users.length (User.create t.settings t.users.length))
    (hsignal : ∀ id u, P id u → P id u.signal) (habort : ∀ id u, P id u → P id u.abort) :
    EachUser P t'.users := by
  cases hmove with
  | prepared => exact heach
  | launched => exact heach.concat hcreate
  | gathered => exact heach
  | concluded => exact (conclude_users (t := t) _).symm ▸ heach
  | alarmed => exact heach.map hsignal
  | cutOff =>
    have husers : (t.stopped m).users = t.users.map User.abort := conclude_users _
    rw [husers]
    exact heach.map habort
  | deleted => exact heach
  | undeleted => exact heach

/-- A move of the coordinator takes no user away. -/
theorem Move.length_users_le (hmove : Move m t answer t') : t.users.length ≤ t'.users.length := by
  cases hmove with
  | prepared => exact Nat.le_refl _
  | launched =>
    rw [List.length_append]
    exact Nat.le_add_right _ _
  | gathered => exact Nat.le_refl _
  | concluded => exact Nat.le_of_eq (congrArg List.length (conclude_users _).symm)
  | alarmed => exact Nat.le_of_eq (List.length_map _).symm
  | cutOff =>
    have husers : (t.stopped m).users = t.users.map User.abort := conclude_users _
    exact Nat.le_of_eq ((congrArg List.length husers).trans (List.length_map _)).symm
  | deleted => exact Nat.le_refl _
  | undeleted => exact Nat.le_refl _

/-- A run takes no user away. -/
theorem length_users_le_of_run {history : List (Scene Trial TrialCue)}
    (hrun : system.Run t history t') : t.users.length ≤ t'.users.length := by
  refine hrun.keeps (P := fun b => t.users.length ≤ b.users.length) (Nat.le_refl _)
    fun b cue hle hallows => Nat.le_trans hle ?_
  rcases cue with ⟨role, m, answer⟩ | _
  · cases role with
    | coordinator => exact (move_resumeCoordinator hallows.2).length_users_le
    | user id =>
      simp only [system, resume, resumeUser]
      split
      · exact Nat.le_refl _
      · exact Nat.le_of_eq (List.length_set ..).symm
  · exact Nat.le_of_eq (List.length_map _).symm

/-- What holds before a trial begins, and is kept by the moves of the coordinator, by those of the
users and by signals, holds of every trial that some history has led to. -/
theorem induction_of_run {s : Settings} {P : List (Scene Trial TrialCue) → Trial → Prop}
    {history : List (Scene Trial TrialCue)} (hrun : system.Run (create s) history t)
    (hcreate : P [] (create s))
    (hcoordinator : ∀ {history t t' m answer}, P history t → t.settings = s → t.IsOrderly →
      t.coordinatorWait.Admits answer → t' = t.resumeCoordinator m answer → Move m t answer t' →
      P (history ++ [⟨t, .answer .coordinator m answer⟩]) t')
    (huser : ∀ {history t m answer unix id u u'}, P history t → t.settings = s → t.IsOrderly →
      t.users[id]? = some u → u.Admits s answer →
      User.Move s m unix u answer (u.entry s m answer) u' →
      t.withUser id (u.entry s m answer) u' = t.resumeUser m answer id →
      P (history ++ [⟨t, .answer (.user id) m answer⟩]) (t.withUser id (u.entry s m answer) u'))
    (hsignal : ∀ {history t}, P history t → t.settings = s → t.IsOrderly →
      P (history ++ [⟨t, .signal⟩]) t.signalUsers) :
    P history t := by
  have hall : P history t ∧ t.settings = s ∧ t.IsOrderly := by
    induction hrun with
    | nil => exact ⟨hcreate, rfl, isOrderly_create s⟩
    | @snoc scenes a cue _ hallows ih =>
      obtain ⟨hP, hsettings, horderly⟩ := ih
      rcases cue with ⟨role, m, answer⟩ | _
      · obtain ⟨⟨unix, hunix⟩, hadmits⟩ := hallows
        cases role with
        | coordinator =>
          have hmove : Move m a answer (a.resumeCoordinator m answer) :=
            move_resumeCoordinator hadmits
          exact ⟨hcoordinator hP hsettings horderly hadmits rfl hmove,
            hmove.settings_eq.trans hsettings, hmove.isOrderly horderly⟩
        | user id =>
          obtain ⟨u, hu, hadmits⟩ := hadmits
          obtain ⟨u', heq, hmove⟩ := resumeUser_eq hu (horderly id u hu).2 hunix hadmits
          have hnext : system.perform (.answer (.user id) m answer) a =
              a.withUser id (u.entry a.settings m answer) u' := heq
          have horderly' := horderly.withUser hu hmove
          rw [hsettings] at heq hnext hadmits hmove horderly'
          rw [hnext]
          exact ⟨huser hP hsettings horderly hu hadmits hmove heq.symm, hsettings, horderly'⟩
      · exact ⟨hsignal hP hsettings horderly, hsettings, horderly.signalUsers⟩
  exact hall.1

/-- Every run leaves a trial its settings. -/
theorem settings_of_run {s : Settings} {history : List (Scene Trial TrialCue)}
    (hrun : system.Run (create s) history t) : t.settings = s :=
  induction_of_run (P := fun _ t => t.settings = s) hrun rfl
    (fun _ hsettings _ _ _ hmove => hmove.settings_eq.trans hsettings)
    (fun hsettings _ _ _ _ _ _ => hsettings) fun hsettings _ _ => hsettings

/-- Every run leaves a trial orderly. -/
theorem isOrderly_of_run {s : Settings} {history : List (Scene Trial TrialCue)}
    (hrun : system.Run (create s) history t) : t.IsOrderly := by
  refine induction_of_run (P := fun _ t => t.IsOrderly) hrun (isOrderly_create s)
    (fun horderly _ _ _ _ hmove => hmove.isOrderly horderly) ?_
    fun horderly _ _ => horderly.signalUsers
  intro _ t m answer unix id u u' horderly hsettings _ hu _ hmove _
  rw [← hsettings] at hmove ⊢
  exact horderly.withUser hu hmove

end Trial

end FleetTrial
