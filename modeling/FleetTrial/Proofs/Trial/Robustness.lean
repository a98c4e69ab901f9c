import FleetTrial.Proofs.Settings.Acceptance
import FleetTrial.Proofs.Trial.Conservation
import FleetTrial.Proofs.Trial.Reconciliation

/-!
# Trials with accepted settings

A trial with accepted settings does not crash: no user does, and the coordinator could only crash
over a report on more attempts than a 64-bit word can count. A trial whose attempts are limited
never makes that many, whatever signals come to it and whoever is cut off.
-/

namespace FleetTrial

namespace User

variable {s : Settings} {m : Moment} {unix : Int × Int} {u u' : User} {answer : Answer}
  {entry : Entry} {total share : Nat} {wall : Duration}

/-- Whether a user has made no more attempts than its share, and fewer if it is going to make
another one. -/
def IsFrugal (share : Nat) (u : User) : Prop :=
  match u.activity with
  | .connecting _ | .starting => u.attempts = 0
  | .attempting _ | .thinking _ => u.target = some share ∧ u.attempts < share
  | _ => u.attempts ≤ share

/-- A user that has done nothing yet is frugal. -/
theorem isFrugal_create (s : Settings) (id share : Nat) : (create s id).IsFrugal share := by
  unfold IsFrugal create
  cases s.metrics.collector <;> rfl

/-- A frugal user has made no more attempts than its share. -/
theorem IsFrugal.attempts_le (hu : u.IsFrugal share) : u.attempts ≤ share := by
  unfold IsFrugal at hu
  split at hu
  · omega
  · omega
  · exact Nat.le_of_lt hu.2
  · exact Nat.le_of_lt hu.2
  · exact hu

/-- A user that has been cut off is frugal if it was so before. -/
theorem IsFrugal.abort (hu : u.IsFrugal share) : u.abort.IsFrugal share := by
  unfold User.abort
  split
  · exact hu
  · exact hu.attempts_le

/-- A user that goes on before an attempt is frugal if there is something left of its share, or
nothing more than that. -/
theorem Begun.isFrugal (hbegun : Begun s wall u u') (hbudgeted : s.IsBudgeted total)
    (htarget : u.target = some share) (hattempts : u.attempts ≤ share) : u'.IsFrugal share := by
  cases hbegun with
  | finished => exact hattempts
  | attempting hdone =>
    rw [isDone_eq hbudgeted htarget, decide_eq_false_iff_not] at hdone
    exact ⟨htarget, Nat.lt_of_not_le hdone⟩
  | dropping => exact hattempts

/-- A user that goes on behind an attempt is frugal if its share had room for that. -/
theorem Reflected.isFrugal (hreflected : Reflected s m u u') (hbudgeted : s.IsBudgeted total)
    (htarget : u.target = some share) (hattempts : u.attempts ≤ share) : u'.IsFrugal share := by
  cases hreflected with
  | finished => exact hattempts
  | thinking hdone =>
    rw [isDone_eq hbudgeted htarget, decide_eq_false_iff_not] at hdone
    exact ⟨htarget, Nat.lt_of_not_le hdone⟩
  | crashed => exact hattempts

/-- Every move leaves a user frugal, also one by which it stops for a signal. -/
theorem Move.isFrugal (hmove : Move s m unix u answer entry u') (hbudgeted : s.IsBudgeted total)
    (hu : u.IsFrugal (s.budget u.id)) : u'.IsFrugal (s.budget u.id) := by
  cases hmove with
  | refused hactivity =>
    have hnone := hu.attempts_le
    exact hnone
  | @started _ u₁ _ target harrives htarget hbegun =>
    rw [hbudgeted.attemptsOf_eq] at htarget
    cases htarget
    have hle : u₁.attempts ≤ s.budget u.id := by
      cases harrives with
      | starting | connected => exact hu.attempts_le
    exact hbegun.isFrugal hbudgeted rfl hle
  | unstarted _ hcrash =>
    rw [hbudgeted.attemptsOf_eq] at hcrash
    cases hcrash
  | resumed hactivity hbegun =>
    simp only [IsFrugal, hactivity] at hu
    exact hbegun.isFrugal hbudgeted hu.1 (Nat.le_of_lt hu.2)
  | stopped => exact hu.attempts_le
  | attempting hactivity =>
    simp only [IsFrugal, hactivity] at hu
    exact hu
  | dropped =>
    have hmade := hu.attempts_le
    exact hmade
  | ended hactivity _ hreflected =>
    simp only [IsFrugal, hactivity] at hu
    exact hreflected.isFrugal hbudgeted hu.1 hu.2

/-- A user that has been cut off has not crashed if it had not before. -/
theorem IsUncrashed.abort (hu : u.IsUncrashed) : u.abort.IsUncrashed := by
  unfold User.abort
  split
  · exact hu
  · exact nofun

/-- Cutting a user off takes none of its attempts away. -/
theorem attempts_abort (u : User) : u.abort.attempts = u.attempts := by
  unfold User.abort
  split <;> rfl

/-- A user that something may come to is sane. -/
theorem Admits.isSane (hadmits : u.Admits s answer) (hkept : u.IsKept) : u.IsSane s := by
  have hbusy := hadmits.isOver_eq_false
  refine ⟨hkept, fun crash hcrashed => ?_, fun haborted => ?_⟩
  · simp only [isOver, hcrashed, Bool.true_eq_false] at hbusy
  · simp only [isOver, haborted, Bool.true_eq_false] at hbusy

end User

namespace Trial

variable {s : Settings} {t t' : Trial} {m : Moment} {answer : Answer} {total : Nat}
  {history : List (Scene Trial TrialCue)}

/-- How many attempts the users of a trial have made. -/
def attemptsMade (t : Trial) : Nat := (t.users.map (·.attempts)).sum

/-- Users that are all sent a signal, or are cut off, have made as many attempts as before. -/
theorem sum_attempts_map (users : List User) {f : User → User}
    (hf : ∀ u, (f u).attempts = u.attempts) :
    ((users.map f).map (·.attempts)).sum = (users.map (·.attempts)).sum := by
  rw [List.map_map]
  exact congrArg List.sum (List.map_congr_left fun u _ => hf u)

/-- The coordinator makes no attempt. -/
theorem Move.attemptsMade_eq (hmove : Move m t answer t') : t'.attemptsMade = t.attemptsMade := by
  unfold attemptsMade
  cases hmove with
  | launched =>
    rw [List.map_append, List.sum_append]
    rfl
  | concluded => rw [conclude_users]
  | alarmed => exact sum_attempts_map t.users fun _ => rfl
  | cutOff =>
    have husers : (t.stopped m).users = t.users.map User.abort := conclude_users _
    rw [husers]
    exact sum_attempts_map t.users User.attempts_abort
  | _ => rfl

/-- Signals make no attempt. -/
theorem attemptsMade_signalUsers (t : Trial) : t.signalUsers.attemptsMade = t.attemptsMade :=
  sum_attempts_map t.users fun _ => rfl

/-- A user makes an attempt when it enters how one has ended. -/
theorem attemptsMade_withUser {unix : Int × Int} {id : Nat} {u u' : User} {entry : Entry}
    (hu : t.users[id]? = some u) (hmove : User.Move s m unix u answer entry u') :
    (t.withUser id entry u').attemptsMade = t.attemptsMade + entry.result.isSome.toNat := by
  have hattempts := sum_map_set_add hu u' (·.attempts)
  rw [hmove.attempts_eq] at hattempts
  simp only [attemptsMade, withUser]
  omega

/-- The coordinator counts nothing. -/
theorem Move.tally_eq (hmove : Move m t answer t') : t'.tally = t.tally := by
  cases hmove with
  | concluded => exact conclude_tally _
  | cutOff => exact conclude_tally _
  | _ => rfl

/-- The coordinator starts no more users than there are to be. -/
theorem Move.length_le (hmove : Move m t answer t')
    (hlength : t.users.length ≤ t.settings.crowd.users) :
    t'.users.length ≤ t.settings.crowd.users := by
  cases hmove with
  | launched _ _ hmore =>
    rw [List.length_append]
    exact hmore
  | concluded => rw [conclude_users]; exact hlength
  | alarmed => exact le_of_eq_of_le (List.length_map _) hlength
  | cutOff =>
    have husers : (t.stopped m).users = t.users.map User.abort := conclude_users _
    rw [husers, List.length_map]
    exact hlength
  | _ => exact hlength

/-- A trial that is to have users crashes when it concludes only if its counters do not add up to a
word. -/
theorem crashed_of_conclude (husers : t.settings.crowd.users ≠ 0)
    {waited : Except TrialError Unit} {crash : Crash}
    (hcrash : (t.conclude m waited).phase = .crashed crash) :
    Text.maxWord64 < t.tally.completed.toNat + t.tally.failed.toNat := by
  apply Nat.lt_of_not_le
  intro hfits
  obtain ⟨block, hblock⟩ := Settings.exists_settingsBlock husers
  obtain ⟨report, hreport⟩ :=
    (Settings.report_ok_iff hblock ⟨m.wall.nanos - t.startedAt.nanos⟩ t.tally).mpr hfits
  simp only [conclude, hreport] at hcrash
  split at hcrash <;> cases hcrash

/-- The coordinator of a trial that is to have users crashes only if the counters do not add up to a
word. -/
theorem Move.crashed (hmove : Move m t answer t') (husers : t.settings.crowd.users ≠ 0)
    {crash : Crash} (hcrash : t'.phase = .crashed crash) :
    Text.maxWord64 < t.tally.completed.toNat + t.tally.failed.toNat := by
  cases hmove with
  | prepared _ hafter =>
    rcases hafter with hstarting | ⟨e, rfl⟩
    · simp only at hcrash
      rw [hcrash] at hstarting
      cases hstarting
    · cases hcrash
  | concluded => exact crashed_of_conclude husers hcrash
  | cutOff =>
    have htally :=
      crashed_of_conclude (t := { t with users := t.users.map User.abort }) husers hcrash
    exact htally
  | launched | gathered | alarmed | deleted | undeleted => cases hcrash

/-- What is known of a trial with sound settings, whatever has happened in it. -/
structure Robust (s : Settings) (t : Trial) : Prop where
  settings : t.settings = s
  uncrashed : EachUser (fun _ u => u.IsUncrashed) t.users
  length : t.users.length ≤ s.crowd.users
  counted : ∃ completed failed, t.tally.completed = UInt64.ofNat completed ∧
    t.tally.failed = UInt64.ofNat failed ∧ completed + failed = t.attemptsMade
  crashed : ∀ crash, t.phase = .crashed crash → Text.maxWord64 < t.attemptsMade

/-- The counters do not show more attempts than have been made. -/
theorem Robust.counters_le (hrobust : Robust s t) :
    t.tally.completed.toNat + t.tally.failed.toNat ≤ t.attemptsMade := by
  obtain ⟨completed, failed, hcompleted, hfailed, hsum⟩ := hrobust.counted
  rw [hcompleted, hfailed, ← hsum, UInt64.toNat_ofNat', UInt64.toNat_ofNat']
  exact Nat.add_le_add (Nat.mod_le _ _) (Nat.mod_le _ _)

/-- A trial that has not begun is robust. -/
theorem robust_create (s : Settings) : Robust s (create s) where
  settings := rfl
  uncrashed id u hu := by cases hu
  length := Nat.zero_le _
  counted := ⟨0, 0, rfl, rfl, rfl⟩
  crashed crash hcrash := by cases hcrash

/-- The coordinator leaves a trial robust. -/
theorem Robust.coordinate (hrobust : Robust s t) (hsound : s.IsSound) (hmove : Move m t answer t') :
    Robust s t' := by
  obtain ⟨rfl, huncrashed, hlength, hcounted, -⟩ := id hrobust
  refine ⟨hmove.settings_eq, ?_, hmove.length_le hlength, ?_, fun crash hcrash => ?_⟩
  · exact hmove.eachUser huncrashed ((User.isSane_create _ _).isUncrashed hsound)
      (fun _ _ hu => hu) fun _ _ hu => hu.abort
  · rw [hmove.tally_eq, hmove.attemptsMade_eq]
    exact hcounted
  · rw [hmove.attemptsMade_eq]
    have husers : t.settings.crowd.users ≠ 0 := Nat.pos_iff_ne_zero.mp hsound.users_pos
    exact Nat.lt_of_lt_of_le (hmove.crashed husers hcrash) hrobust.counters_le

/-- A user leaves a trial robust. -/
theorem Robust.work (hrobust : Robust s t) (hsound : s.IsSound) {unix : Int × Int} {id : Nat}
    {u u' : User} {entry : Entry} (hu : t.users[id]? = some u) (hsane : u.IsSane s)
    (hmove : User.Move s m unix u answer entry u') : Robust s (t.withUser id entry u') := by
  obtain ⟨completed, failed, hcompleted, hfailed, hsum⟩ := hrobust.counted
  have hmade := attemptsMade_withUser hu hmove
  rw [← entry.isCompleted_add_isFailed] at hmade
  constructor
  case settings => exact hrobust.settings
  case uncrashed =>
    have hsane' := hmove.isSane hsound.toIsStaffed hsane
    exact hrobust.uncrashed.set (hsane'.isUncrashed hsound)
  case length => exact le_of_eq_of_le List.length_set hrobust.length
  case counted =>
    refine ⟨completed + entry.isCompleted.toNat, failed + entry.isFailed.toNat, ?_, ?_, ?_⟩
    · rw [ofNat_add_toNat, ← hcompleted, withUser, Tally.enter_eq]
    · rw [ofNat_add_toNat, ← hfailed, withUser, Tally.enter_eq]
    · omega
  case crashed =>
    intro crash hcrash
    have hbefore := hrobust.crashed crash hcrash
    omega

/-- Signals leave a trial robust. -/
theorem Robust.signalled (hrobust : Robust s t) : Robust s t.signalUsers where
  settings := hrobust.settings
  uncrashed := hrobust.uncrashed.map fun _ _ hu => hu
  length := le_of_eq_of_le (List.length_map _) hrobust.length
  counted := by
    rw [attemptsMade_signalUsers]
    exact hrobust.counted
  crashed crash hcrash := by
    rw [attemptsMade_signalUsers]
    exact hrobust.crashed crash hcrash

/-- Every run of a trial with sound settings leaves it robust. -/
theorem robust_of_run (hsound : s.IsSound) (hrun : system.Run (create s) history t) : Robust s t :=
  induction_of_run (P := fun _ t => Robust s t) hrun (robust_create s)
    (fun hrobust _ _ _ _ hmove => hrobust.coordinate hsound hmove)
    (fun hrobust _ horderly hu hadmits hmove _ =>
      hrobust.work hsound hu (hadmits.isSane (horderly _ _ hu).2) hmove)
    fun hrobust _ _ => hrobust.signalled

/-- No run makes more attempts than it has scenes. -/
theorem attemptsMade_le_length (hrun : system.Run (create s) history t) :
    t.attemptsMade ≤ history.length := by
  refine induction_of_run (P := fun history t => t.attemptsMade ≤ history.length) hrun
    (Nat.le_refl 0) (fun hmade _ _ _ _ hmove => ?_) (fun hmade _ _ hu _ hmove _ => ?_)
    (fun hmade _ _ => ?_) <;> rw [List.length_append, List.length_singleton]
  · rw [hmove.attemptsMade_eq]
    exact Nat.le_succ_of_le hmade
  · rw [attemptsMade_withUser hu hmove]
    exact Nat.add_le_add hmade (Bool.toNat_le _)
  · rw [attemptsMade_signalUsers]
    exact Nat.le_succ_of_le hmade

/-- Every run of a trial with a budget leaves its users frugal. -/
theorem isFrugal_of_run (hbudgeted : s.IsBudgeted total)
    (hrun : system.Run (create s) history t) :
    EachUser (fun id u => u.id = id ∧ u.IsFrugal (s.budget id)) t.users := by
  refine induction_of_run
    (P := fun _ t => EachUser (fun id u => u.id = id ∧ u.IsFrugal (s.budget id)) t.users) hrun
    (fun id u hu => by cases hu) (fun heach _ _ _ _ hmove => ?_)
    (fun heach _ _ hu _ hmove _ => ?_) (fun heach _ _ => heach.map fun _ _ hu => hu)
  · exact hmove.eachUser heach ⟨rfl, User.isFrugal_create _ _ _⟩ (fun _ _ hu => hu)
      fun _ u hu => ⟨(User.id_abort u).trans hu.1, hu.2.abort⟩
  · obtain ⟨rfl, hfrugal⟩ := heach _ _ hu
    exact heach.set ⟨hmove.id_eq, hmove.isFrugal hbudgeted hfrugal⟩

/-- A trial with a budget makes no more attempts than that, whatever happens in it. -/
theorem attemptsMade_le_of_run (hbudgeted : s.IsBudgeted total)
    (hrun : system.Run (create s) history t) (hlength : t.users.length ≤ s.crowd.users) :
    t.attemptsMade ≤ total := by
  have hfrugal := isFrugal_of_run hbudgeted hrun
  have hshares : t.attemptsMade ≤ (t.users.map fun u => s.budget u.id).sum := by
    refine List.sum_le_sum fun u hu => ?_
    obtain ⟨id, hid⟩ := List.getElem?_of_mem hu
    obtain ⟨rfl, hu⟩ := hfrugal id u hid
    exact hu.attempts_le
  rw [(booked_of_run hrun).1.map_budget] at hshares
  exact Nat.le_trans hshares (hbudgeted.sum_budget_le hlength)

/-- What never happens in a trial with accepted settings. -/
structure IsSafe (s : Settings) (history : List (Scene Trial TrialCue)) (t : Trial) : Prop where
  /-- No user has crashed. -/
  users : ∀ u ∈ t.users, ∀ crash, u.activity ≠ .crashed crash
  /-- If their number is limited, no more attempts have been made than that. -/
  attempts : ∀ n, s.extent.attempts = some n → t.attemptsMade ≤ n
  /-- No more attempts have been made than scenes have passed. -/
  scenes : t.attemptsMade ≤ history.length
  /-- A report can be made at any time, as long as a word can count the attempts. -/
  report : t.attemptsMade ≤ Text.maxWord64 →
    ∀ elapsed, ∃ text, Report.ofTrial s elapsed t.tally = .ok text
  /-- The coordinator has crashed for no other reason than that. -/
  coordinator : ∀ crash, t.phase = .crashed crash → Text.maxWord64 < t.attemptsMade

/-- A trial with accepted settings is safe at every time of every run. -/
theorem isSafe_of_run {line : List String} (haccepted : s.IsAccepted line)
    (hrun : system.Run (create s) history t) : IsSafe s history t := by
  obtain ⟨-, hsound, -⟩ := haccepted.check_ok
  have hfit := haccepted.isFit
  have hrobust := robust_of_run hsound hrun
  constructor
  case users =>
    intro u hu
    obtain ⟨id, hid⟩ := List.getElem?_of_mem hu
    exact hrobust.uncrashed id u hid
  case attempts =>
    intro n hn
    rcases hfit.extent with ⟨d, hs, -⟩ | ⟨total, hs, -, hword⟩
    · rw [hs] at hn
      cases hn
    · rw [hs] at hn
      cases hn
      have hbudgeted : s.IsBudgeted n := ⟨hsound.toIsStaffed, by rw [hs], by rw [hs], hword⟩
      exact attemptsMade_le_of_run hbudgeted hrun hrobust.length
  case scenes => exact attemptsMade_le_length hrun
  case report =>
    intro hfits elapsed
    exact (hfit.report elapsed t.tally).mpr (Nat.le_trans hrobust.counters_le hfits)
  case coordinator => exact hrobust.crashed

end Trial

/-- What a command line is accepted for. It makes a trial that is ready to begin, with a client of
the control plane; nothing that is worked out from its settings later on can fail, and whatever
happens in the trial, it stays safe. -/
theorem accepted_line_never_fails {s : Settings} {line : List String}
    (haccepted : s.IsAccepted line) :
    (∃ summary client, launch line = .ready ⟨s, summary, .ok client⟩) ∧ s.IsFit ∧
      ∀ history t, Trial.system.Run (Trial.create s) history t → Trial.IsSafe s history t := by
  have hfit := haccepted.isFit
  refine ⟨?_, hfit, fun history t hrun => Trial.isSafe_of_run haccepted hrun⟩
  obtain ⟨given, host, hread, hchecked⟩ := haccepted
  obtain ⟨summary, hsummary⟩ := hfit.summary
  obtain ⟨address, headers, -, -, -, -, hclient⟩ := hfit.client
  refine ⟨summary, ⟨address, headers⟩, ?_⟩
  simp only [launch, hread, hchecked, hsummary, hclient]

/-- A command line that asks for 25 attempts of the usual ten users, with a header of its own. -/
def CommandLine.typical : List String :=
  ["--host", "http://localhost:8001", "-n", "25", "-H", "Accept: text/plain"]

/-- The settings that the typical command line asks for. -/
def Settings.typical : Settings where
  target := ⟨"http://localhost:8001", false, ["Accept: text/plain"], .ofSecs 30⟩
  fleet := ⟨"scale-test-fleet", 100, "default", "gcr.io/agones-images/udp-server:0.5", 26000, true,
    false⟩
  crowd := ⟨10, .ofMillis 500, .ofMillis 900⟩
  extent := ⟨none, some 25⟩
  polling := ⟨some (.ofSecs 60), some (.ofSecs 600), .zero⟩
  metrics := ⟨some "localhost:2003", "performance"⟩
  verbose := false

/-- The typical command line is accepted, and what holds of accepted settings holds of these. -/
theorem accepted_line_never_fails_for_typical :
    Settings.typical.IsAccepted CommandLine.typical ∧ Settings.typical.IsFit ∧
      Trial.IsSafe .typical [] (.create .typical) := by
  have haccepted : Settings.typical.IsAccepted CommandLine.typical := ⟨_, _, rfl, rfl⟩
  obtain ⟨-, hfit, hsafe⟩ := accepted_line_never_fails haccepted
  exact ⟨haccepted, hfit, hsafe [] _ .nil⟩

end FleetTrial
