import FleetTrial.Allocation.Watch
import FleetTrial.Proofs.Polling.Passage
import FleetTrial.Proofs.Time.Elapsing

/-!
# How a watch ends

A watch looks at the answer to the request for an allocation and then at one fetched snapshot after
another. Four rules end it, and they are tested in a fixed order at each look: a terminal state
counts even behind the deadline, the deadline even if there is no link to go on with, and only then
do a missing link and a failed fetch count. A watch ends at the first look at which one of them
holds, and until then it fetches each snapshot through the link of the one before it.
-/

namespace FleetTrial

/-- A watch as a poller, whose clock stands still while a snapshot is looked at. -/
def Watch.poller : Poller Watch := ⟨Watch.wait, fun now => Watch.resume now⟩

/-- A watched allocation with all that it meets. -/
structure Vigil where
  limit : Option Duration
  interval : Duration
  /-- The answer to the request for the allocation. -/
  initial : Snapshot
  /-- When the allocation was requested. -/
  postedAt : Instant
  course : Course

namespace Vigil

variable {v : Vigil} {k made : Nat} {s : Snapshot} {r : Except TrialError Measurement}

/-- What is looked at when so many fetches have been answered, if all of them brought snapshots. -/
def snapshot? (v : Vigil) : Nat → Option Snapshot
  | 0 => some v.initial
  | k + 1 =>
    match v.snapshot? k, v.course.reply k with
    | some _, some (.ok s) => some s
    | _, _ => none

/-- The nanoseconds from the request to look `k`, none if the clock is behind the request. -/
def elapsed (v : Vigil) (k : Nat) : Nat := (v.course.clock k).nanos - v.postedAt.nanos

/-- The whole milliseconds from the request to look `k`, at most the largest 64-bit word. -/
def millis (v : Vigil) (k : Nat) : UInt64 :=
  UInt64.ofNat (min (v.elapsed k / 1000000) Text.maxWord64)

/-- Whether the deadline has passed at look `k`. -/
def IsLate (v : Vigil) (k : Nat) : Prop :=
  ∃ limit, v.limit = some limit ∧ limit.nanos ≤ v.elapsed k

/-- Whether look `k` at a snapshot leaves the watch open: no terminal state, and time left. -/
structure IsOpen (v : Vigil) (k : Nat) (s : Snapshot) : Prop where
  seen : v.snapshot? k = some s
  not_allocated : s.state? ≠ some "Allocated"
  not_unallocated : s.state? ≠ some "UnAllocated"
  not_late : ¬ v.IsLate k

/-- The four rules that end a watch at look `k`, with the number of fetches that were made by then
and the result. Each rule gives way to those before it. -/
inductive EndsAt (v : Vigil) (k : Nat) : Nat → Except TrialError Measurement → Prop
  | allocated {s : Snapshot} (hseen : v.snapshot? k = some s)
    (hstate : s.state? = some "Allocated") :
    EndsAt v k k (.ok ⟨.allocated, v.millis k, k⟩)
  | unallocated {s : Snapshot} (hseen : v.snapshot? k = some s)
    (hstate : s.state? = some "UnAllocated") :
    EndsAt v k k (.ok ⟨.unallocated, v.millis k, k⟩)
  | timedOut {s : Snapshot} (hseen : v.snapshot? k = some s)
    (hallocated : s.state? ≠ some "Allocated") (hunallocated : s.state? ≠ some "UnAllocated")
    (hlate : v.IsLate k) :
    EndsAt v k k (.ok ⟨.timedOut, v.millis k, k⟩)
  | unlinked {s : Snapshot} (hopen : v.IsOpen k s) (hlink : s.selfLink? = none) :
    EndsAt v k k (.error (.missingField "metadata.selfLink"))
  | failed {s : Snapshot} {link : String} {e : TrialError} (hopen : v.IsOpen k s)
    (hlink : s.selfLink? = some link) (hreply : v.course.reply k = some (.error e)) :
    EndsAt v k (k + 1) (.error e)

/-- Whether look `k` is the first one that ends the watch. -/
def EndsFirstAt (v : Vigil) (k made : Nat) (r : Except TrialError Measurement) : Prop :=
  v.EndsAt k made r ∧ ∀ j < k, ∀ made' r', ¬ v.EndsAt j made' r'

/-- Whether each of some fetches asks for the link of the snapshot before it. -/
def FollowsLinks (v : Vigil) (fetched : List Request) : Prop :=
  ∀ j < fetched.length, ∃ s link, v.snapshot? j = some s ∧ s.selfLink? = some link ∧
    fetched[j]? = some (.fetch link)

/-- What a watch knows at look `k`. -/
def poll (v : Vigil) (k : Nat) (s : Snapshot) : Poll := ⟨⟨v.postedAt, v.limit⟩, v.interval, s, k⟩

/-- The watch at its first look. -/
def start (v : Vigil) : Watch :=
  Watch.start v.limit v.interval v.initial v.postedAt (v.course.clock 0)

/-- How far the watch has come after so many steps. -/
def after (v : Vigil) (n : Nat) : Passage Watch := Passage.after Watch.poller v.course v.start n

/-- A state other than the two names of the control plane's outcomes stands for no outcome. -/
theorem outcome?_poll_eq_none (hallocated : s.state? ≠ some "Allocated")
    (hunallocated : s.state? ≠ some "UnAllocated") : (v.poll k s).outcome? = none := by
  unfold Poll.outcome? poll
  cases hstate : s.state? with
  | none => rfl
  | some state =>
    have ha : state ≠ "Allocated" := fun h => hallocated (by rw [hstate, h])
    have hu : state ≠ "UnAllocated" := fun h => hunallocated (by rw [hstate, h])
    simp only [Option.bind_some, Outcome.ofState?, if_neg ha, if_neg hu]

/-- The deadline of a poll has passed exactly if the watch is late. -/
theorem expired_poll_iff :
    (v.poll k s).deadline.expired (v.course.clock k) = true ↔ v.IsLate k :=
  Deadline.expired_iff

/-- An open look goes on to a fetch, behind a pause if there is one. -/
theorem IsOpen.inspect_eq (hopen : v.IsOpen k s) :
    (v.poll k s).inspect (v.course.clock k) = (v.poll k s).pace := by
  have hexpired : ¬ (v.poll k s).deadline.expired (v.course.clock k) = true :=
    fun h => hopen.not_late (expired_poll_iff.mp h)
  simp only [Poll.inspect, outcome?_poll_eq_none hopen.not_allocated hopen.not_unallocated,
    if_neg hexpired]

/-- A look ends the watch by the state or the deadline, or it leaves the watch open. -/
theorem inspect_cases (hseen : v.snapshot? k = some s) :
    (∃ r, (v.poll k s).inspect (v.course.clock k) = .over r ∧ v.EndsAt k k r) ∨ v.IsOpen k s := by
  by_cases hallocated : s.state? = some "Allocated"
  · refine .inl ⟨_, ?_, .allocated hseen hallocated⟩
    simp only [Poll.inspect, Poll.outcome?, poll, hallocated, Option.bind_some, Outcome.ofState?]
    rfl
  by_cases hunallocated : s.state? = some "UnAllocated"
  · refine .inl ⟨_, ?_, .unallocated hseen hunallocated⟩
    simp only [Poll.inspect, Poll.outcome?, poll, hunallocated, Option.bind_some, Outcome.ofState?]
    rfl
  by_cases hlate : v.IsLate k
  · refine .inl ⟨_, ?_, .timedOut hseen hallocated hunallocated hlate⟩
    simp only [Poll.inspect, outcome?_poll_eq_none hallocated hunallocated,
      if_pos (expired_poll_iff.mpr hlate)]
    rfl
  · exact .inr ⟨hseen, hallocated, hunallocated, hlate⟩

/-- From an open look the watch goes on to the fetch through its link, or ends for want of one. -/
theorem IsOpen.fetch_cases (hopen : v.IsOpen k s) :
    (∃ r, (v.poll k s).fetch = .over r ∧ v.EndsAt k k r) ∨
      ∃ link, s.selfLink? = some link ∧ (v.poll k s).fetch = .fetching (v.poll k s) link := by
  unfold Poll.fetch
  cases hlink : s.selfLink? with
  | none =>
    refine .inl ⟨_, ?_, .unlinked hopen hlink⟩
    simp only [poll, hlink]
    rfl
  | some link => exact .inr ⟨link, rfl, by simp only [poll, hlink]⟩

/-- A look that leaves the watch open with a link to go on with can only end it by the failure of
the next fetch. -/
theorem IsOpen.failed_of_endsAt {link : String} (hopen : v.IsOpen k s)
    (hlink : s.selfLink? = some link) (hends : v.EndsAt k made r) :
    made = k + 1 ∧ ∃ e, v.course.reply k = some (.error e) ∧ r = .error e := by
  cases hends with
  | allocated hseen hstate =>
    cases hopen.seen.symm.trans hseen
    exact absurd hstate hopen.not_allocated
  | unallocated hseen hstate =>
    cases hopen.seen.symm.trans hseen
    exact absurd hstate hopen.not_unallocated
  | timedOut _ _ _ hlate => exact absurd hlate hopen.not_late
  | unlinked hopen' hlink' =>
    cases hopen.seen.symm.trans hopen'.seen
    cases hlink.symm.trans hlink'
  | failed _ _ hreply => exact ⟨rfl, _, hreply, rfl⟩

/-- Where a watch stands between two of its steps, `k` fetches having been answered with
snapshots. -/
inductive Stage (v : Vigil) (k : Nat) (x : Passage Watch) : Prop
  | pausing {s : Snapshot} (hopen : v.IsOpen k s) (hstate : x.state = .pausing (v.poll k s))
    (hlength : x.fetched.length = k)
  | fetching {s : Snapshot} {link : String} (hopen : v.IsOpen k s)
    (hlink : s.selfLink? = some link) (hstate : x.state = .fetching (v.poll k s) link)
    (hlength : x.fetched.length = k)
  | ended {r : Except TrialError Measurement} (hends : v.EndsAt k x.fetched.length r)
    (hstate : x.state = .over r)

/-- The stage of a watch that goes on to its next fetch. -/
theorem stage_of_fetch {x : Passage Watch} (hopen : v.IsOpen k s)
    (hstate : x.state = (v.poll k s).fetch) (hlength : x.fetched.length = k) : v.Stage k x := by
  rcases hopen.fetch_cases with ⟨r, hfetch, hends⟩ | ⟨link, hlink, hfetch⟩
  · exact .ended (hlength ▸ hends) (hstate.trans hfetch)
  · exact .fetching hopen hlink (hstate.trans hfetch) hlength

/-- The stage of a watch that looks at a snapshot. -/
theorem stage_of_inspect {x : Passage Watch} (hseen : v.snapshot? k = some s)
    (hstate : x.state = (v.poll k s).inspect (v.course.clock k))
    (hlength : x.fetched.length = k) : v.Stage k x := by
  rcases inspect_cases hseen with ⟨r, hinspect, hends⟩ | hopen
  · exact .ended (hlength ▸ hends) (hstate.trans hinspect)
  · rw [hopen.inspect_eq] at hstate
    unfold Poll.pace at hstate
    split at hstate
    · exact .pausing hopen hstate hlength
    · exact stage_of_fetch hopen hstate hlength

/-- A further fetch asks for the link of the latest snapshot. -/
theorem FollowsLinks.append {fetched : List Request} {link : String}
    (hfetched : v.FollowsLinks fetched) (hseen : v.snapshot? fetched.length = some s)
    (hlink : s.selfLink? = some link) : v.FollowsLinks (fetched ++ [.fetch link]) := by
  intro j hj
  rw [List.length_append, List.length_singleton] at hj
  by_cases hlast : j = fetched.length
  · subst j
    exact ⟨s, link, hseen, hlink, List.getElem?_concat_length⟩
  · have hlt : j < fetched.length := by omega
    obtain ⟨s', link', hseen', hlink', hget⟩ := hfetched j hlt
    exact ⟨s', link', hseen', hlink', by rw [List.getElem?_append_left hlt, hget]⟩

/-- Of two lists of fetches that ask for the links of the same snapshots, the shorter one begins the
longer one. -/
theorem FollowsLinks.isPrefix {fetched fetched' : List Request} (hfetched : v.FollowsLinks fetched)
    (hfetched' : v.FollowsLinks fetched') (hle : fetched.length ≤ fetched'.length) :
    fetched <+: fetched' := by
  rw [List.prefix_iff_getElem?]
  intro j hj
  obtain ⟨s, link, hseen, hlink, hget⟩ := hfetched j hj
  obtain ⟨s', link', hseen', hlink', hget'⟩ := hfetched' j (Nat.lt_of_lt_of_le hj hle)
  obtain rfl : s = s' := Option.some.inj (hseen.symm.trans hseen')
  obtain rfl : link = link' := Option.some.inj (hlink.symm.trans hlink')
  rw [hget', ← hget, List.getElem?_eq_getElem hj]

/-- One step of a watch: it stays before its next fetch, or the fetch brings a snapshot and it
looks at that. Either way each fetch asks for the latest link. -/
theorem Stage.step {x : Passage Watch} (hstage : v.Stage k x) (hlinks : v.FollowsLinks x.fetched) :
    v.FollowsLinks (x.step Watch.poller v.course).fetched ∧
      (v.Stage k (x.step Watch.poller v.course) ∨
        v.Stage (k + 1) (x.step Watch.poller v.course) ∧ ∀ made r, ¬ v.EndsAt k made r) := by
  cases hstage with
  | pausing hopen hstate hlength =>
    have hwait : Watch.poller.wait x.state = .pause v.interval := by rw [hstate]; rfl
    rw [Passage.step_of_pause hwait]
    exact ⟨hlinks, .inl (stage_of_fetch hopen (by rw [hstate]; rfl) hlength)⟩
  | @fetching s link hopen hlink hstate hlength =>
    have hwait : Watch.poller.wait x.state = .reply (.fetch link) := by rw [hstate]; rfl
    have hnext := hlinks.append (hlength ▸ hopen.seen) hlink
    cases hreply : v.course.reply k with
    | none =>
      rw [Passage.step_of_unanswered hwait (hlength ▸ hreply)]
      exact ⟨hlinks, .inl (.fetching hopen hlink hstate hlength)⟩
    | some result =>
      rw [Passage.step_of_reply hwait (hlength ▸ hreply)]
      refine ⟨hnext, ?_⟩
      cases result with
      | error e =>
        refine .inl (.ended ?_ (by rw [hstate]; rfl))
        rw [List.length_append, List.length_singleton, hlength]
        exact .failed hopen hlink hreply
      | ok next =>
        have hseen : v.snapshot? (k + 1) = some next := by
          simp only [snapshot?, hopen.seen, hreply]
        refine .inr ⟨stage_of_inspect hseen ?_ ?_, fun made r hends => ?_⟩
        · rw [hstate, hlength]
          rfl
        · rw [List.length_append, List.length_singleton, hlength]
        · obtain ⟨_, e, hfailed, _⟩ := hopen.failed_of_endsAt hlink hends
          cases hreply.symm.trans hfailed
  | ended hends hstate =>
    rw [Passage.step_of_over (by rw [hstate]; rfl)]
    exact ⟨hlinks, .inl (.ended hends hstate)⟩

/-- After any number of steps a watch stands at some look that no earlier look has kept it from,
and all its fetches have asked for the latest link. -/
theorem exists_stage (v : Vigil) (n : Nat) :
    v.FollowsLinks (v.after n).fetched ∧
      ∃ k, v.Stage k (v.after n) ∧ ∀ j < k, ∀ made r, ¬ v.EndsAt j made r := by
  induction n with
  | zero =>
    refine ⟨fun j hj => absurd hj (Nat.not_lt_zero j), 0, stage_of_inspect rfl rfl rfl, ?_⟩
    exact fun j hj => absurd hj (Nat.not_lt_zero j)
  | succ n ih =>
    obtain ⟨hlinks, k, hstage, hnone⟩ := ih
    obtain ⟨hlinks', hstage' | ⟨hstage', hend⟩⟩ := hstage.step hlinks
    · exact ⟨hlinks', k, hstage', hnone⟩
    · refine ⟨hlinks', k + 1, hstage', fun j hj => ?_⟩
      rcases Nat.lt_succ_iff_lt_or_eq.mp hj with hlt | rfl
      · exact hnone j hlt
      · exact hend

/-- A watch that is over has ended at its first look that ends it. -/
theorem endsFirstAt_of_over {n : Nat} (hover : (v.after n).state = .over r) :
    ∃ k, v.EndsFirstAt k (v.after n).fetched.length r := by
  obtain ⟨_, k, hstage, hnone⟩ := v.exists_stage n
  cases hstage with
  | pausing _ hstate => cases hover.symm.trans hstate
  | fetching _ _ hstate => cases hover.symm.trans hstate
  | ended hends hstate =>
    cases hover.symm.trans hstate
    exact ⟨k, hends, hnone⟩

/-- Whether a watch is just taking its look `k`. -/
def LooksAt (v : Vigil) (k : Nat) (s : Snapshot) (x : Passage Watch) : Prop :=
  x.state = (v.poll k s).inspect (v.course.clock k) ∧ x.fetched.length = k

theorem after_succ (v : Vigil) (n : Nat) :
    v.after (n + 1) = (v.after n).step Watch.poller v.course := rfl

/-- Behind an open look the watch comes to its next fetch, if need be after a pause. -/
theorem exists_fetch_after_look {n : Nat} (hopen : v.IsOpen k s)
    (hlook : v.LooksAt k s (v.after n)) :
    ∃ m, (v.after m).state = (v.poll k s).fetch ∧ (v.after m).fetched.length = k := by
  obtain ⟨hstate, hlength⟩ := hlook
  rw [hopen.inspect_eq] at hstate
  unfold Poll.pace at hstate
  split at hstate
  · refine ⟨n + 1, ?_⟩
    have hwait : Watch.poller.wait (v.after n).state = .pause v.interval := by rw [hstate]; rfl
    rw [after_succ, Passage.step_of_pause hwait]
    exact ⟨by rw [hstate]; rfl, hlength⟩
  · exact ⟨n, hstate, hlength⟩

/-- A fetch that is answered takes the watch on, at the next instant of its course. -/
theorem after_reply {n : Nat} {p : Poll} {link : String} {result : Except TrialError Snapshot}
    (hstate : (v.after n).state = .fetching p link) (hlength : (v.after n).fetched.length = k)
    (hreply : v.course.reply k = some result) :
    (v.after (n + 1)).state =
        (Watch.fetching p link).resume (v.course.clock (k + 1)) (.reply result) ∧
      (v.after (n + 1)).fetched.length = k + 1 := by
  have hwait : Watch.poller.wait (v.after n).state = .reply (.fetch link) := by rw [hstate]; rfl
  rw [after_succ, Passage.step_of_reply hwait (hlength ▸ hreply)]
  refine ⟨?_, by rw [List.length_append, List.length_singleton, hlength]⟩
  rw [hstate, hlength]
  rfl

/-- A watch takes every look that no earlier look keeps it from. -/
theorem exists_look (hseen : v.snapshot? k = some s)
    (hnone : ∀ j < k, ∀ made r, ¬ v.EndsAt j made r) : ∃ n, v.LooksAt k s (v.after n) := by
  induction k generalizing s with
  | zero =>
    cases hseen
    exact ⟨0, rfl, rfl⟩
  | succ k ih =>
    cases hprevious : v.snapshot? k with
    | none => simp only [snapshot?, hprevious, reduceCtorEq] at hseen
    | some previous =>
      have hreply : v.course.reply k = some (.ok s) := by
        unfold snapshot? at hseen
        split at hseen
        · cases hseen
          assumption
        · cases hseen
      obtain ⟨n, hlook⟩ := ih hprevious fun j hj => hnone j (by omega)
      rcases inspect_cases hprevious with ⟨r, _, hends⟩ | hopen
      · exact absurd hends (hnone k (by omega) k r)
      · obtain ⟨m, hfetch, hlength⟩ := exists_fetch_after_look hopen hlook
        rcases hopen.fetch_cases with ⟨r, _, hends⟩ | ⟨link, _, hlink⟩
        · exact absurd hends (hnone k (by omega) k r)
        · exact ⟨m + 1, after_reply (hfetch.trans hlink) hlength hreply⟩

/-- At most one rule ends a watch at a look, with one result. -/
theorem EndsAt.unique {made' : Nat} {r' : Except TrialError Measurement}
    (hends : v.EndsAt k made r) (hends' : v.EndsAt k made' r') : made = made' ∧ r = r' := by
  cases hends <;> cases hends' <;> grind [IsOpen]

/-- A look that ends a watch is at a snapshot. -/
theorem EndsAt.exists_snapshot? (hends : v.EndsAt k made r) : ∃ s, v.snapshot? k = some s := by
  cases hends with
  | allocated hseen | unallocated hseen | timedOut hseen => exact ⟨_, hseen⟩
  | unlinked hopen | failed hopen => exact ⟨_, hopen.seen⟩

/-- A watch ends at the first look that ends it. -/
theorem exists_over_of_endsFirstAt (hfirst : v.EndsFirstAt k made r) :
    ∃ n, (v.after n).state = .over r ∧ (v.after n).fetched.length = made := by
  obtain ⟨hends, hnone⟩ := hfirst
  obtain ⟨s, hseen⟩ := hends.exists_snapshot?
  obtain ⟨n, hlook⟩ := exists_look hseen hnone
  rcases inspect_cases hseen with ⟨r', hinspect, hends'⟩ | hopen
  · obtain ⟨rfl, rfl⟩ := hends.unique hends'
    exact ⟨n, hlook.1.trans hinspect, hlook.2⟩
  obtain ⟨m, hfetch, hlength⟩ := exists_fetch_after_look hopen hlook
  rcases hopen.fetch_cases with ⟨r', hover, hends'⟩ | ⟨link, hlink, hfetching⟩
  · obtain ⟨rfl, rfl⟩ := hends.unique hends'
    exact ⟨m, hfetch.trans hover, hlength⟩
  -- The link is there, so only the reply to the fetch can end the watch.
  obtain ⟨rfl, e, hreply, rfl⟩ := hopen.failed_of_endsAt hlink hends
  exact ⟨m + 1, after_reply (hfetch.trans hfetching) hlength hreply⟩

/-- A watch that no look has ended up to `k` goes on to the fetch through the link of snapshot
`k`. -/
theorem exists_fetch_of_not_endsAt (hseen : v.snapshot? k = some s)
    (hnone : ∀ j ≤ k, ∀ made r, ¬ v.EndsAt j made r) :
    ∃ n link, s.selfLink? = some link ∧ (v.after n).state.wait = .reply (.fetch link) ∧
      (v.after n).fetched.length = k := by
  obtain ⟨n, hlook⟩ := exists_look hseen fun j hj => hnone j (Nat.le_of_lt hj)
  rcases inspect_cases hseen with ⟨r, _, hends⟩ | hopen
  · exact absurd hends (hnone k (Nat.le_refl k) k r)
  obtain ⟨m, hfetch, hlength⟩ := exists_fetch_after_look hopen hlook
  rcases hopen.fetch_cases with ⟨r, _, hends⟩ | ⟨link, hlink, hfetching⟩
  · exact absurd hends (hnone k (Nat.le_refl k) k r)
  · exact ⟨m, link, hlink, by rw [hfetch, hfetching]; rfl, hlength⟩

/-- What a measurement says of the look that ended the watch. -/
theorem EndsAt.measured {m : Measurement} (hends : v.EndsAt k made (.ok m)) :
    made = k ∧ m.fetches = k ∧ m.millis = v.millis k ∧
      (m.outcome = .timedOut ∧ v.limit ≠ none ∨
        m.outcome ≠ .timedOut ∧ ∃ s, v.snapshot? k = some s ∧ s.state? = some m.outcome.name) := by
  cases hends with
  | allocated hseen hstate => exact ⟨rfl, rfl, rfl, .inr ⟨nofun, _, hseen, hstate⟩⟩
  | unallocated hseen hstate => exact ⟨rfl, rfl, rfl, .inr ⟨nofun, _, hseen, hstate⟩⟩
  | timedOut _ _ _ hlate =>
    obtain ⟨limit, hlimit, _⟩ := hlate
    exact ⟨rfl, rfl, rfl, .inl ⟨rfl, by rw [hlimit]; nofun⟩⟩

/-- How a watch ends, whatever it meets. Each fetch asks for the link of the snapshot before it.
The watch is over exactly if some look ends it, and then with the result of the first such look and
without a fetch more than that takes; as long as no look ends it, it goes on to fetch. A
measurement is of the look that ended the watch: its outcome is the state that was seen there, or
else a time-out, for which there has to be a deadline. -/
theorem watch_ends_at_first_look (v : Vigil) :
    (∀ n, v.FollowsLinks (v.after n).fetched) ∧
    (∀ made r, (∃ n, (v.after n).state = .over r ∧ (v.after n).fetched.length = made) ↔
      ∃ k, v.EndsFirstAt k made r) ∧
    (∀ k s, v.snapshot? k = some s → (∀ j ≤ k, ∀ made r, ¬ v.EndsAt j made r) →
      ∃ n link, s.selfLink? = some link ∧ (v.after n).state.wait = .reply (.fetch link) ∧
        (v.after n).fetched.length = k) ∧
    ∀ n m, (v.after n).state = .over (.ok m) →
      m.fetches = (v.after n).fetched.length ∧ m.millis = v.millis m.fetches ∧
        (m.outcome = .timedOut ∧ v.limit ≠ none ∨
          m.outcome ≠ .timedOut ∧
            ∃ s, v.snapshot? m.fetches = some s ∧ s.state? = some m.outcome.name) := by
  refine ⟨fun n => (v.exists_stage n).1, fun made r => ⟨?_, ?_⟩,
    fun k s hseen hnone => exists_fetch_of_not_endsAt hseen hnone, ?_⟩
  · rintro ⟨n, hover, rfl⟩
    exact endsFirstAt_of_over hover
  · rintro ⟨k, hfirst⟩
    exact exists_over_of_endsFirstAt hfirst
  · intro n m hover
    obtain ⟨k, hends, _⟩ := endsFirstAt_of_over hover
    obtain ⟨hmade, hfetches, hmillis, houtcome⟩ := hends.measured
    rw [hmade, hfetches]
    exact ⟨rfl, hmillis, houtcome⟩

end Vigil

end FleetTrial
