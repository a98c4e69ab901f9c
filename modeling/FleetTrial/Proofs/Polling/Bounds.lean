import FleetTrial.Proofs.Polling.Muster
import FleetTrial.Proofs.Polling.Progress
import FleetTrial.Proofs.Polling.Vigil

/-!
# What bounds a watch and a wait

If every fetch is answered and takes some time, a deadline ends both pollers after no more fetches
than fit into it, whatever the answers are. Nothing else needs to end them: without a deadline the
control plane can keep either of them fetching for as long as it likes.
-/

namespace FleetTrial

/-- Whether a snapshot lets a watch go on: it has a link and shows no outcome. -/
structure Snapshot.IsUndecided (s : Snapshot) : Prop where
  linked : ∃ link, s.selfLink? = some link
  not_allocated : s.state? ≠ some "Allocated"
  not_unallocated : s.state? ≠ some "UnAllocated"

namespace Passage

variable {α : Type} {p : Poller α} {c : Course} {start : α}

/-- Whether a poller keeps within its time: it fetches nothing when the time has been spent, and
if each fetch is answered and takes at least a step, it is over after no more fetches than there
are steps in the time that it has at first. -/
structure IsBounded (p : Poller α) (c : Course) (start : α) (spent : Nat → Nat) (time : Nat) :
    Prop where
  in_time : ∀ n request, p.wait (after p c start n).state = .reply request →
    spent (after p c start n).fetched.length < time
  ends : ∀ step, 0 < step → c.IsAnswered → c.AdvancesBy step →
    (∃ n, p.wait (after p c start n).state = .over) ∧
      ∀ n, (after p c start n).fetched.length ≤ (time - spent 0) ⌈/⌉ step

/-- Whether a poller goes on forever: it makes any number of fetches and is never over. -/
structure IsEndless (p : Poller α) (c : Course) (start : α) : Prop where
  goes_on : ∀ k, ∃ n request, p.wait (after p c start n).state = .reply request ∧
    (after p c start n).fetched.length = k
  never_over : ∀ n, p.wait (after p c start n).state ≠ .over

/-- A brisk poller that fetches only in time is bounded by its time, if it measures that by its
course. -/
theorem IsBounded.of_in_time {spent : Nat → Nat} {time : Nat} (hbrisk : p.IsBrisk)
    (hspent : ∀ step, c.AdvancesBy step → ∀ k, spent k + step ≤ spent (k + 1))
    (hintime : ∀ n request, p.wait (after p c start n).state = .reply request →
      spent (after p c start n).fetched.length < time) :
    IsBounded p c start spent time := by
  refine ⟨hintime, fun step hstep hanswered hadvances => ?_⟩
  have hbound := length_fetched_le_ceilDiv hstep (hspent step hadvances) hintime
  refine ⟨?_, hbound⟩
  rcases exists_fetches_or_over hbrisk hanswered start ((time - spent 0) ⌈/⌉ step + 1) with
    ⟨n, _, _, hlength⟩ | hover
  · have hle := hbound n
    omega
  · exact hover

/-- A brisk poller whose fetches are all answered goes on forever if it is never over. -/
theorem IsEndless.of_never_over (hbrisk : p.IsBrisk) (hanswered : c.IsAnswered)
    (hnever : ∀ n, p.wait (after p c start n).state ≠ .over) : IsEndless p c start := by
  refine ⟨fun k => ?_, hnever⟩
  rcases exists_fetches_or_over hbrisk hanswered start k with hfetch | ⟨n, hover⟩
  · exact hfetch
  · exact absurd hover (hnever n)

end Passage

/-- A watch is brisk. -/
theorem Watch.poller_isBrisk : Watch.poller.IsBrisk where
  waits w := by
    cases w with
    | pausing p => exact .inr (.inr ⟨_, rfl⟩)
    | fetching p link => exact .inr (.inl ⟨_, rfl⟩)
    | «over» r => exact .inl rfl
  paused w span now hpause := by
    cases w with
    | fetching p link => cases hpause
    | «over» r => cases hpause
    | pausing p =>
      change (Poll.fetch p).wait = .over ∨ ∃ request, (Poll.fetch p).wait = .reply request
      unfold Poll.fetch
      split
      · exact .inl rfl
      · exact .inr ⟨_, rfl⟩

/-- The wait for a fleet is brisk. -/
theorem Readiness.poller_isBrisk : Readiness.poller.IsBrisk where
  waits r := by
    cases r with
    | pausing c => exact .inr (.inr ⟨_, rfl⟩)
    | fetching c => exact .inr (.inl ⟨_, rfl⟩)
    | «over» r => exact .inl rfl
  paused r span now hpause := by
    cases r with
    | fetching c => cases hpause
    | «over» r => cases hpause
    | pausing c => exact .inr ⟨_, rfl⟩

namespace Vigil

variable {v : Vigil}

/-- A watch that is over has ended by one of its rules. -/
theorem exists_endsAt_of_over {n : Nat} (hwait : (v.after n).state.wait = .over) :
    ∃ k r, v.EndsAt k (v.after n).fetched.length r := by
  obtain ⟨_, k, hstage, _⟩ := v.exists_stage n
  cases hstage with
  | pausing hopen hstate hlength => rw [hstate] at hwait; cases hwait
  | fetching hopen hlink hstate hlength => rw [hstate] at hwait; cases hwait
  | @ended r hends hstate => exact ⟨k, r, hends⟩

/-- A watch fetches only as long as its deadline has not passed. -/
theorem elapsed_lt_of_fetch {limit : Duration} (hlimit : v.limit = some limit) {n : Nat}
    {request : Request} (hfetch : (v.after n).state.wait = .reply request) :
    v.elapsed (v.after n).fetched.length < limit.nanos := by
  obtain ⟨_, k, hstage, _⟩ := v.exists_stage n
  cases hstage with
  | pausing hopen hstate hlength => rw [hstate] at hfetch; cases hfetch
  | fetching hopen hlink hstate hlength =>
    rw [hlength]
    exact Nat.lt_of_not_le fun hlate => hopen.not_late ⟨limit, hlimit, hlate⟩
  | ended hends hstate => rw [hstate] at hfetch; cases hfetch

/-- The time of a watch that was not requested in the future passes with its course. -/
theorem elapsed_succ (hposted : v.postedAt.nanos ≤ (v.course.clock 0).nanos) {step : Nat}
    (hadvances : v.course.AdvancesBy step) (k : Nat) : v.elapsed k + step ≤ v.elapsed (k + 1) := by
  have hzero := hadvances.clock_le (Nat.zero_le k)
  have hnext := hadvances k
  unfold elapsed
  omega

/-- As long as only undecided snapshots come, each look is at one. -/
theorem isUndecided_of_snapshot? (hinitial : v.initial.IsUndecided)
    (hreplies : ∀ k, ∃ s, v.course.reply k = some (.ok s) ∧ s.IsUndecided) {k : Nat} {s : Snapshot}
    (hseen : v.snapshot? k = some s) : s.IsUndecided := by
  cases k with
  | zero =>
    cases hseen
    exact hinitial
  | succ k =>
    obtain ⟨s', hreply, hundecided⟩ := hreplies k
    unfold snapshot? at hseen
    rw [hreply] at hseen
    split at hseen
    · rename_i heq
      cases hseen
      cases heq
      exact hundecided
    · cases hseen

/-- No look at an undecided snapshot ends a watch without a deadline, nor does the fetch of
another snapshot. -/
theorem not_endsAt_of_undecided (hlimit : v.limit = none) (hinitial : v.initial.IsUndecided)
    (hreplies : ∀ k, ∃ s, v.course.reply k = some (.ok s) ∧ s.IsUndecided) (k made : Nat)
    (r : Except TrialError Measurement) : ¬ v.EndsAt k made r := by
  intro hends
  have hundecided {s : Snapshot} (hseen : v.snapshot? k = some s) : s.IsUndecided :=
    isUndecided_of_snapshot? hinitial hreplies hseen
  cases hends with
  | allocated hseen hstate => exact (hundecided hseen).not_allocated hstate
  | unallocated hseen hstate => exact (hundecided hseen).not_unallocated hstate
  | timedOut hseen _ _ hlate =>
    obtain ⟨limit, hsome, _⟩ := hlate
    cases hlimit.symm.trans hsome
  | unlinked hopen hlink =>
    obtain ⟨link, hsome⟩ := (hundecided hopen.seen).linked
    cases hlink.symm.trans hsome
  | failed hopen hlink hreply =>
    obtain ⟨s, hok, _⟩ := hreplies k
    cases hreply.symm.trans hok

end Vigil

namespace Muster

variable {m : Muster}

/-- The wait for a fleet fetches only as long as its deadline has not passed. -/
theorem elapsed_lt_of_fetch {limit : Duration} (hlimit : m.limit = some limit) {n : Nat}
    {request : Request} (hfetch : (m.after n).state.wait = .reply request) :
    m.elapsed (m.after n).fetched.length < limit.nanos := by
  obtain ⟨k, hstage, _⟩ := m.exists_stage n
  cases hstage with
  | pausing hopen hstate hlength => rw [hstate] at hfetch; cases hfetch
  | fetching hopen hstate hlength =>
    rw [hlength]
    exact Nat.lt_of_not_le fun hlate => hopen.in_time ⟨limit, hlimit, hlate⟩
  | ended r hends hstate => rw [hstate] at hfetch; cases hfetch

/-- The time of the wait passes with its course. -/
theorem elapsed_succ {step : Nat} (hadvances : m.course.AdvancesBy step) (k : Nat) :
    m.elapsed k + step ≤ m.elapsed (k + 1) := by
  have hzero := hadvances.clock_le (Nat.zero_le k)
  have hnext := hadvances k
  unfold elapsed
  omega

/-- Without a deadline nothing ends the wait at a fetch that brings another number of ready
replicas than the wanted one. -/
theorem not_endsAt_of_unready (hlimit : m.limit = none)
    (hreplies : ∀ k, ∃ s, m.course.reply k = some (.ok s) ∧ s.readyReplicas? ≠ some m.target)
    (k made : Nat) (r : Except TrialError Unit) : ¬ m.EndsAt k made r := by
  intro hends
  obtain ⟨s, hok, hunready⟩ := hreplies k
  cases hends with
  | timedOut hlate =>
    obtain ⟨limit, hsome, _⟩ := hlate
    cases hlimit.symm.trans hsome
  | failed _ hreply => cases hreply.symm.trans hok
  | ready _ hreply hready =>
    cases hreply.symm.trans hok
    exact hunready hready

/-- A wait that is over has ended by one of its rules. -/
theorem exists_endsAt_of_over {n : Nat} (hwait : (m.after n).state.wait = .over) :
    ∃ k r, m.EndsAt k (m.after n).fetched.length r := by
  obtain ⟨k, hstage, _⟩ := m.exists_stage n
  cases hstage with
  | pausing hopen hstate hlength => rw [hstate] at hwait; cases hwait
  | fetching hopen hstate hlength => rw [hstate] at hwait; cases hwait
  | ended r hends hstate => exact ⟨k, r, hends⟩

end Muster

/-- What a deadline bounds. A watch that was requested before it starts and the wait for a fleet
are bounded by their deadlines, whatever the control plane answers. Without a deadline both go on
forever as long as they are answered with snapshots that show no outcome but a link, or with
snapshots that have another number of ready replicas than the wanted one. -/
theorem deadline_bounds_polling (v : Vigil) (m : Muster) :
    (∀ limit, v.limit = some limit → v.postedAt.nanos ≤ (v.course.clock 0).nanos →
      Passage.IsBounded Watch.poller v.course v.start v.elapsed limit.nanos) ∧
    (∀ limit, m.limit = some limit →
      Passage.IsBounded Readiness.poller m.course m.start m.elapsed limit.nanos ∧ m.elapsed 0 = 0) ∧
    (v.limit = none → v.initial.IsUndecided →
      (∀ k, ∃ s, v.course.reply k = some (.ok s) ∧ s.IsUndecided) →
      Passage.IsEndless Watch.poller v.course v.start) ∧
    (m.limit = none →
      (∀ k, ∃ s, m.course.reply k = some (.ok s) ∧ s.readyReplicas? ≠ some m.target) →
      Passage.IsEndless Readiness.poller m.course m.start) := by
  refine ⟨fun limit hlimit hposted => ?_, fun limit hlimit => ⟨?_, Nat.sub_self _⟩,
    fun hlimit hinitial hreplies => ?_, fun hlimit hreplies => ?_⟩
  · exact .of_in_time Watch.poller_isBrisk
      (fun step hadvances => Vigil.elapsed_succ hposted hadvances)
      (fun n request hfetch => Vigil.elapsed_lt_of_fetch hlimit hfetch)
  · exact .of_in_time Readiness.poller_isBrisk
      (fun step hadvances => Muster.elapsed_succ hadvances)
      (fun n request hfetch => Muster.elapsed_lt_of_fetch hlimit hfetch)
  · have hanswered := Course.isAnswered_of_snapshots hreplies
    refine .of_never_over Watch.poller_isBrisk hanswered fun n hwait => ?_
    obtain ⟨k, r, hends⟩ := Vigil.exists_endsAt_of_over hwait
    exact Vigil.not_endsAt_of_undecided hlimit hinitial hreplies k _ r hends
  · have hanswered := Course.isAnswered_of_snapshots hreplies
    refine .of_never_over Readiness.poller_isBrisk hanswered fun n hwait => ?_
    obtain ⟨k, r, hends⟩ := Muster.exists_endsAt_of_over hwait
    exact Muster.not_endsAt_of_unready hlimit hreplies k _ r hends

/-- A course on which each fetch brings the same snapshot and takes so many nanoseconds. -/
def Course.uniform (s : Snapshot) (step : Nat) : Course :=
  ⟨fun _ => some (.ok s), fun k => ⟨k * step⟩⟩

/-- The watch of an allocation that stays pending, two nanoseconds a fetch. -/
def Vigil.uneventful (limit : Option Duration) : Vigil :=
  ⟨limit, .zero, .pending "/a", ⟨0⟩, .uniform (.pending "/a") 2⟩

/-- The wait for the second replica of a fleet that stays with one, two nanoseconds a fetch. -/
def Muster.uneventful (limit : Option Duration) : Muster :=
  ⟨limit, .zero, "/f", 2, .uniform (.withReady "/f" 1) 2⟩

/-- Five nanoseconds bound an uneventful watch and an uneventful wait to three fetches, and
without a deadline neither of them ends. -/
theorem deadline_bounds_polling_of_uneventful :
    (∀ n, ((Vigil.uneventful (some ⟨5⟩)).after n).fetched.length ≤ 3) ∧
    (∀ n, ((Muster.uneventful (some ⟨5⟩)).after n).fetched.length ≤ 3) ∧
    Passage.IsEndless Watch.poller (Vigil.uneventful none).course (Vigil.uneventful none).start ∧
    Passage.IsEndless Readiness.poller (Muster.uneventful none).course
      (Muster.uneventful none).start := by
  have hadvances (s : Snapshot) : (Course.uniform s 2).AdvancesBy 2 := fun k =>
    Nat.le_of_eq (Nat.succ_mul k 2).symm
  have hanswered (s : Snapshot) : (Course.uniform s 2).IsAnswered := fun k => ⟨_, rfl⟩
  have hpending : (Snapshot.pending "/a").IsUndecided := ⟨⟨"/a", rfl⟩, nofun, nofun⟩
  obtain ⟨hwatch, hwait, -, -⟩ :=
    deadline_bounds_polling (.uneventful (some ⟨5⟩)) (.uneventful (some ⟨5⟩))
  obtain ⟨-, -, hwatch', hwait'⟩ := deadline_bounds_polling (.uneventful none) (.uneventful none)
  refine ⟨?_, ?_, ?_, ?_⟩
  · exact ((hwatch ⟨5⟩ rfl (Nat.le_refl 0)).ends 2 (by decide) (hanswered _) (hadvances _)).2
  · exact ((hwait ⟨5⟩ rfl).1.ends 2 (by decide) (hanswered _) (hadvances _)).2
  · exact hwatch' rfl hpending fun k => ⟨_, rfl, hpending⟩
  · exact hwait' rfl fun k => ⟨_, rfl, by decide⟩

end FleetTrial
