import FleetTrial.Proofs.Polling.Bounds

/-!
# Watches that outlast each other

Two watches of one allocation that get the same answers look at the same snapshots and ask for the
same links. If one of them is late no earlier than the other, it ends at no earlier look: what the
other one has decided it decides as well, and where the other one times out it goes on. So a later
deadline can turn nothing but a time-out into another result, and the clock can change nothing but
the milliseconds of a watch that has no deadline at all.
-/

namespace FleetTrial

namespace Vigil

variable {v w : Vigil} {k made : Nat} {s : Snapshot} {r : Except TrialError Measurement}
  {fetched fetched' : List Request}

/-- Whether a watch ends with a result, behind just these fetches. -/
def Yields (v : Vigil) (fetched : List Request) (r : Except TrialError Measurement) : Prop :=
  ∃ n, (v.after n).state = .over r ∧ (v.after n).fetched = fetched

/-- Whether the fetches of a watch begin with these. -/
def FetchesFirst (v : Vigil) (fetched : List Request) : Prop :=
  ∃ n₀, ∀ n, n₀ ≤ n → fetched <+: (v.after n).fetched

/-- A result with the milliseconds that a watch tells of the look that it ended at. -/
def timed (v : Vigil) (r : Except TrialError Measurement) : Except TrialError Measurement :=
  r.map fun m => { m with millis := v.millis m.fetches }

/-- Whether a result is an outcome that the control plane said, or an error, but no time-out. -/
def IsDecided (r : Except TrialError Measurement) : Prop :=
  ∀ m, r = .ok m → m.outcome ≠ .timedOut

/-- A watch ends behind the fetches of its first look that ends it, each for the latest link. -/
theorem yields_iff :
    v.Yields fetched r ↔ v.FollowsLinks fetched ∧ ∃ k, v.EndsFirstAt k fetched.length r := by
  constructor
  · rintro ⟨n, hover, rfl⟩
    exact ⟨(v.exists_stage n).1, endsFirstAt_of_over hover⟩
  · rintro ⟨hlinks, k, hfirst⟩
    obtain ⟨n, hover, hlength⟩ := exists_over_of_endsFirstAt hfirst
    have hprefix := (v.exists_stage n).1.isPrefix hlinks hlength.le
    exact ⟨n, hover, hprefix.eq_of_length hlength⟩

/-- A watch ends in one way only. -/
theorem Yields.unique {r' : Except TrialError Measurement} (hyields : v.Yields fetched r)
    (hyields' : v.Yields fetched' r') : fetched = fetched' ∧ r = r' := by
  obtain ⟨hlinks, k, hends, hnone⟩ := yields_iff.mp hyields
  obtain ⟨hlinks', k', hends', hnone'⟩ := yields_iff.mp hyields'
  obtain rfl : k = k' := by
    rcases Nat.lt_trichotomy k k' with hlt | heq | hlt
    · exact absurd hends (hnone' k hlt _ _)
    · exact heq
    · exact absurd hends' (hnone k' hlt _ _)
  obtain ⟨hlength, hresult⟩ := hends.unique hends'
  exact ⟨(hlinks.isPrefix hlinks' hlength.le).eq_of_length hlength, hresult⟩

/-- The milliseconds of a result are those of the watch that it ended. -/
theorem EndsAt.timed_eq (hends : v.EndsAt k made r) : v.timed r = r := by
  cases hends <;> rfl

/-- What a measurement tells of the fetches before it. -/
theorem Yields.measured {m : Measurement} (hyields : v.Yields fetched (.ok m)) :
    fetched.length = m.fetches ∧ m.millis = v.millis m.fetches := by
  obtain ⟨_, k, hends, _⟩ := yields_iff.mp hyields
  obtain ⟨hmade, hfetches, hmillis, _⟩ := hends.measured
  exact ⟨hmade.trans hfetches.symm, hfetches.symm ▸ hmillis⟩

/-- The milliseconds of a result are those of the watch that yields it. -/
theorem Yields.timed_eq (hyields : v.Yields fetched r) : v.timed r = r := by
  obtain ⟨_, k, hends, _⟩ := yields_iff.mp hyields
  exact hends.timed_eq

/-- How many milliseconds are told at a look. -/
theorem toNat_millis (v : Vigil) (k : Nat) :
    (v.millis k).toNat = min (v.elapsed k / 1000000) Text.maxWord64 :=
  Duration.toNat_wholeMillis ⟨v.elapsed k⟩

/-- The more time has passed at a look, the more milliseconds are told there. -/
theorem millis_le_of_elapsed_le {j : Nat} (hle : v.elapsed j ≤ w.elapsed k) :
    v.millis j ≤ w.millis k :=
  Duration.wholeMillis_le_wholeMillis (show Duration.mk (v.elapsed j) ≤ ⟨w.elapsed k⟩ from hle)

/-- A watch outlasts another one if it is of the same allocation, meets the same answers, and is
nowhere late where the other one is not. -/
structure Outlasts (w v : Vigil) : Prop where
  initial_eq : w.initial = v.initial
  reply_eq : w.course.reply = v.course.reply
  late : ∀ k, w.IsLate k → v.IsLate k

namespace Outlasts

variable (houtlasts : w.Outlasts v)

include houtlasts

/-- Both watches look at the same snapshots. -/
theorem snapshot?_eq (k : Nat) : w.snapshot? k = v.snapshot? k := by
  induction k with
  | zero => exact congrArg some houtlasts.initial_eq
  | succ k ih => simp only [snapshot?, ih, houtlasts.reply_eq]

/-- Both watches follow the same links. -/
theorem followsLinks_iff : w.FollowsLinks fetched ↔ v.FollowsLinks fetched := by
  simp only [FollowsLinks, houtlasts.snapshot?_eq]

/-- What is open to a watch is open to one that outlasts it. -/
theorem isOpen (hopen : v.IsOpen k s) : w.IsOpen k s where
  seen := (houtlasts.snapshot?_eq k).trans hopen.seen
  not_allocated := hopen.not_allocated
  not_unallocated := hopen.not_unallocated
  not_late hlate := hopen.not_late (houtlasts.late k hlate)

/-- What a watch has decided at a look is decided there by one that outlasts it. -/
theorem endsAt (hends : v.EndsAt k made r) (hdecided : IsDecided r) :
    w.EndsAt k made (w.timed r) := by
  cases hends with
  | allocated hseen hstate => exact .allocated ((houtlasts.snapshot?_eq k).trans hseen) hstate
  | unallocated hseen hstate => exact .unallocated ((houtlasts.snapshot?_eq k).trans hseen) hstate
  | timedOut hseen hallocated hunallocated hlate => exact absurd rfl (hdecided _ rfl)
  | unlinked hopen hlink => exact .unlinked (houtlasts.isOpen hopen) hlink
  | failed hopen hlink hreply =>
    exact .failed (houtlasts.isOpen hopen) hlink ((congrFun houtlasts.reply_eq k).trans hreply)

/-- A look that is open to a watch was open to the one that it outlasts, or ended it as late. -/
theorem isOpen_or_endsAt (hopen : w.IsOpen k s) :
    v.IsOpen k s ∨ ∃ made r, v.EndsAt k made r := by
  have hseen := (houtlasts.snapshot?_eq k).symm.trans hopen.seen
  by_cases hlate : v.IsLate k
  · exact .inr ⟨_, _, .timedOut hseen hopen.not_allocated hopen.not_unallocated hlate⟩
  · exact .inl ⟨hseen, hopen.not_allocated, hopen.not_unallocated, hlate⟩

/-- A look that ends a watch ends the one that it outlasts too, if in another way. -/
theorem exists_endsAt (hends : w.EndsAt k made r) : ∃ made' r', v.EndsAt k made' r' := by
  have hsame := houtlasts.snapshot?_eq k
  cases hends with
  | allocated hseen hstate => exact ⟨_, _, .allocated (hsame.symm.trans hseen) hstate⟩
  | unallocated hseen hstate => exact ⟨_, _, .unallocated (hsame.symm.trans hseen) hstate⟩
  | timedOut hseen hallocated hunallocated hlate =>
    exact ⟨_, _, .timedOut (hsame.symm.trans hseen) hallocated hunallocated
      (houtlasts.late k hlate)⟩
  | unlinked hopen hlink =>
    rcases houtlasts.isOpen_or_endsAt hopen with hopen' | hends'
    · exact ⟨_, _, .unlinked hopen' hlink⟩
    · exact hends'
  | failed hopen hlink hreply =>
    rcases houtlasts.isOpen_or_endsAt hopen with hopen' | hends'
    · exact ⟨_, _, .failed hopen' hlink ((congrFun houtlasts.reply_eq k).symm.trans hreply)⟩
    · exact hends'

/-- No look before the first that ends a watch ends one that outlasts it. -/
theorem not_endsAt (hfirst : v.EndsFirstAt k made r) {j : Nat} (hj : j < k) (made' : Nat)
    (r' : Except TrialError Measurement) : ¬ w.EndsAt j made' r' := by
  intro hends
  obtain ⟨_, _, hends'⟩ := houtlasts.exists_endsAt hends
  exact hfirst.2 j hj _ _ hends'

/-- What a watch has decided, one that outlasts it decides behind the same fetches. -/
theorem yields (hyields : v.Yields fetched r) (hdecided : IsDecided r) :
    w.Yields fetched (w.timed r) := by
  obtain ⟨hlinks, k, hfirst⟩ := yields_iff.mp hyields
  exact yields_iff.mpr ⟨houtlasts.followsLinks_iff.mpr hlinks, k,
    houtlasts.endsAt hfirst.1 hdecided, fun j hj => houtlasts.not_endsAt hfirst hj⟩

/-- A watch begins with the fetches behind which one that it outlasts has measured something. -/
theorem fetchesFirst {m : Measurement} (hyields : v.Yields fetched (.ok m)) :
    w.FetchesFirst fetched := by
  obtain ⟨hlinks, k, hfirst⟩ := yields_iff.mp hyields
  obtain ⟨hmade, -⟩ := hfirst.1.measured
  obtain ⟨s, hseen⟩ := hfirst.1.exists_snapshot?
  obtain ⟨n₀, _, hlength⟩ := exists_look ((houtlasts.snapshot?_eq k).trans hseen)
    fun j hj => houtlasts.not_endsAt hfirst hj
  -- The outlasting watch takes the look that ends the other one, so it has made all its fetches.
  have hprefix : fetched <+: (w.after n₀).fetched :=
    (houtlasts.followsLinks_iff.mpr hlinks).isPrefix (w.exists_stage n₀).1
      (hmade.trans hlength.symm).le
  exact ⟨n₀, fun n hn => hprefix.trans (Passage.fetched_isPrefix _ _ _ hn)⟩

/-- A watch measures nothing behind fewer fetches than one that it outlasts. -/
theorem fetches_le {m m' : Measurement} (hyields : v.Yields fetched (.ok m))
    (hyields' : w.Yields fetched' (.ok m')) : m.fetches ≤ m'.fetches := by
  obtain ⟨_, k, hfirst⟩ := yields_iff.mp hyields
  obtain ⟨_, k', hends', _⟩ := yields_iff.mp hyields'
  obtain ⟨_, hfetches, _⟩ := hfirst.1.measured
  obtain ⟨_, hfetches', _⟩ := hends'.measured
  rw [hfetches, hfetches']
  exact Nat.le_of_not_lt fun hlt => houtlasts.not_endsAt hfirst hlt _ _ hends'

end Outlasts

/-- The same watch with another deadline. -/
def extended (v : Vigil) (limit : Option Duration) : Vigil := { v with limit }

/-- A watch outlasts itself if its deadline is moved back or removed. -/
theorem outlasts_extended {limit : Option Duration}
    (hlimit : ∀ later, limit = some later → ∃ sooner, v.limit = some sooner ∧ sooner ≤ later) :
    (v.extended limit).Outlasts v where
  initial_eq := rfl
  reply_eq := rfl
  late k hlate := by
    obtain ⟨later, hlater, helapsed⟩ := hlate
    obtain ⟨sooner, hsooner, hle⟩ := hlimit later hlater
    exact ⟨sooner, hsooner, Nat.le_trans hle helapsed⟩

/-- What a later deadline, or none, changes. A result that was decided before the deadline stays
the same, with the same milliseconds and behind the same fetches. Where the time was up, the watch
begins with the same fetches and goes on; if it measures anything, that takes no fewer fetches and
no fewer milliseconds. -/
theorem extension_keeps_decisions (v : Vigil) (limit : Option Duration)
    (hlimit : ∀ later, limit = some later → ∃ sooner, v.limit = some sooner ∧ sooner ≤ later)
    (hclock : v.course.AdvancesBy 0) :
    (∀ fetched r, v.Yields fetched r → IsDecided r → (v.extended limit).Yields fetched r) ∧
    ∀ fetched m, v.Yields fetched (.ok m) → m.outcome = .timedOut →
      fetched.length = m.fetches ∧ (v.extended limit).FetchesFirst fetched ∧
      ∀ fetched' m', (v.extended limit).Yields fetched' (.ok m') →
        m.fetches ≤ m'.fetches ∧ m.millis ≤ m'.millis := by
  have houtlasts := outlasts_extended hlimit
  refine ⟨fun fetched r hyields hdecided => ?_, fun fetched m hyields _ =>
    ⟨hyields.measured.1, houtlasts.fetchesFirst hyields, fun fetched' m' hyields' => ?_⟩⟩
  · -- Both watches tell the same milliseconds, for they share their clock.
    have htimed : (v.extended limit).timed r = r := hyields.timed_eq
    exact htimed ▸ houtlasts.yields hyields hdecided
  · have hfetches := houtlasts.fetches_le hyields hyields'
    refine ⟨hfetches, ?_⟩
    rw [hyields.measured.2, hyields'.measured.2]
    exact millis_le_of_elapsed_le (Nat.sub_le_sub_right (hclock.clock_le hfetches) _)

/-- The watch of an allocation that is decided with its third fetch, each of which takes two
milliseconds. -/
def settling (limit : Option Duration) : Vigil where
  limit
  interval := .zero
  initial := .pending "/a"
  postedAt := ⟨0⟩
  course.reply k := some (.ok (if k < 2 then .pending "/a" else .inState "/a" "Allocated"))
  course.clock k := ⟨2000000 * k⟩

/-- With three milliseconds the watch gives up behind its second fetch. With five it sees the third
one through, which comes too late but with a terminal state, and no later deadline changes that. -/
theorem extension_keeps_decision_of_settling :
    (settling (some (.ofMillis 3))).Yields [.fetch "/a", .fetch "/a"] (.ok ⟨.timedOut, 4, 2⟩) ∧
    (settling (some (.ofMillis 5))).FetchesFirst [.fetch "/a", .fetch "/a"] ∧
    (∀ fetched m, (settling (some (.ofMillis 5))).Yields fetched (.ok m) →
      2 ≤ m.fetches ∧ 4 ≤ m.millis) ∧
    (settling (some (.ofMillis 5))).Yields [.fetch "/a", .fetch "/a", .fetch "/a"]
      (.ok ⟨.allocated, 6, 3⟩) ∧
    (settling none).Yields [.fetch "/a", .fetch "/a", .fetch "/a"] (.ok ⟨.allocated, 6, 3⟩) := by
  have hclock (limit : Option Duration) : (settling limit).course.AdvancesBy 0 := fun k =>
    Nat.mul_le_mul_left 2000000 (Nat.le_succ k)
  have hsooner : (settling (some (.ofMillis 3))).Yields [.fetch "/a", .fetch "/a"]
      (.ok ⟨.timedOut, 4, 2⟩) := ⟨2, rfl, rfl⟩
  have hlater : (settling (some (.ofMillis 5))).Yields [.fetch "/a", .fetch "/a", .fetch "/a"]
      (.ok ⟨.allocated, 6, 3⟩) := ⟨3, rfl, rfl⟩
  obtain ⟨-, htimedOut⟩ := extension_keeps_decisions (settling (some (.ofMillis 3)))
    (some (.ofMillis 5)) (fun later hlimit => ⟨_, rfl, by cases hlimit; decide⟩) (hclock _)
  obtain ⟨hdecided, -⟩ := extension_keeps_decisions (settling (some (.ofMillis 5))) none nofun
    (hclock _)
  obtain ⟨-, hfirst, hmore⟩ := htimedOut _ _ hsooner rfl
  exact ⟨hsooner, hfirst, hmore, hlater, hdecided _ _ hlater fun m hm => by cases hm; decide⟩

end Vigil

end FleetTrial
