import FleetTrial.Proofs.Polling.Outlasting

/-!
# The pace of pollers

A poller pauses behind each fetch that it goes on from, and behind nothing else. So its fetches come
with just one pause between any two of them, and with none at all if the interval is empty. Only the
time that it looks at the deadline and the answers decide what a poller does, and pauses change
neither: with another interval it makes the same requests and ends in the same way.
-/

namespace FleetTrial

namespace Passage

variable {α : Type} {p : Poller α} {c : Course} {start : α} {interval : Duration} {n : Nat}

/-- What a poller is served with its next step: the end of a pause or the answer to a fetch. -/
def served (p : Poller α) (c : Course) (x : Passage α) : List Wait :=
  match p.wait x.state with
  | .pause span => [.pause span]
  | .reply request => if (c.reply x.fetched.length).isSome then [.reply request] else []
  | _ => []

/-- The pauses that ended and the fetches that were answered in so many steps, in order. -/
def history (p : Poller α) (c : Course) (start : α) : Nat → List Wait
  | 0 => []
  | n + 1 => history p c start n ++ (after p c start n).served p c

/-- Fetches with a pause between any two of them, or with none if the pause is empty. -/
def paced (interval : Duration) (fetched : List Request) : List Wait :=
  if interval.isZero then fetched.map .reply else (fetched.map .reply).intersperse (.pause interval)

/-- How many pauses stand between so many fetches. -/
def pausesBetween (interval : Duration) (fetches : Nat) : Nat :=
  if interval.isZero then 0 else fetches - 1

theorem intersperse_concat {β : Type} {l : List β} (hl : l ≠ []) (sep a : β) :
    (l ++ [a]).intersperse sep = l.intersperse sep ++ [sep, a] := by
  induction l with
  | nil => exact absurd rfl hl
  | cons x l ih =>
    cases l with
    | nil => rfl
    | cons y l =>
      have hmore := ih (List.cons_ne_nil y l)
      simp only [List.cons_append, List.intersperse_cons_cons] at hmore ⊢
      rw [hmore]

/-- One more fetch comes without a pause if it is the first one or the pause is empty. -/
theorem paced_concat {fetched : List Request} (hfirst : fetched = [] ∨ interval.isZero = true)
    (request : Request) :
    paced interval (fetched ++ [request]) = paced interval fetched ++ [.reply request] := by
  unfold paced
  split
  · exact List.map_append
  · rename_i hinterval
    obtain rfl := hfirst.resolve_right hinterval
    rfl

/-- Any other fetch comes behind a pause. -/
theorem paced_concat_of_pause {fetched : List Request} (hfetched : fetched ≠ [])
    (hinterval : interval.isZero = false) (request : Request) :
    paced interval (fetched ++ [request]) =
      paced interval fetched ++ [.pause interval] ++ [.reply request] := by
  have hmap : fetched.map Wait.reply ≠ [] := mt List.map_eq_nil_iff.mp hfetched
  simp only [paced, hinterval, Bool.false_eq_true, if_false, List.map_append, List.map_singleton,
    intersperse_concat hmap, List.append_assoc, List.singleton_append]

/-- Where a poller stands in its pace: it has paused between its fetches, or once more behind the
last one. Behind such a pause it is over only if it quits. -/
inductive Pace (p : Poller α) (interval : Duration) (quits : α → Prop) (x : Passage α)
    (history : List Wait) : Prop
  | even (hhistory : history = paced interval x.fetched)
    (hpauses : x.pauses = pausesBetween interval x.fetched.length)
    (hfirst : ∀ request, p.wait x.state = .reply request →
      x.fetched = [] ∨ interval.isZero = true)
  | ahead (hhistory : history = paced interval x.fetched ++ [.pause interval])
    (hpauses : x.pauses = x.fetched.length) (hfetched : x.fetched ≠ [])
    (hinterval : interval.isZero = false) (hwait : ∀ span, p.wait x.state ≠ .pause span)
    (hquits : p.wait x.state = .over → quits x.state)

namespace Pace

variable {quits : α → Prop} {x : Passage α} {before : List Wait} {request : Request}

/-- With the next fetch a poller has paused just once between any two fetches. -/
theorem history_concat (hpace : Pace p interval quits x before)
    (hwait : p.wait x.state = .reply request) :
    before ++ [.reply request] = paced interval (x.fetched ++ [request]) := by
  cases hpace with
  | even hhistory _ hfirst => rw [hhistory, paced_concat (hfirst request hwait)]
  | ahead hhistory _ hfetched hinterval =>
    rw [hhistory, paced_concat_of_pause hfetched hinterval]

/-- The pauses before the next fetch stand between the fetches up to that one. -/
theorem pauses_eq (hpace : Pace p interval quits x before)
    (hwait : p.wait x.state = .reply request) :
    x.pauses = pausesBetween interval (x.fetched.length + 1) := by
  unfold pausesBetween
  cases hpace with
  | even _ hpauses hfirst =>
    rw [hpauses, pausesBetween]
    rcases hfirst request hwait with hnone | hzero
    · rw [hnone]
      rfl
    · rw [if_pos hzero, if_pos hzero]
  | ahead _ hpauses _ hinterval =>
    rw [hpauses, hinterval]
    rfl

/-- A pause takes a poller ahead of its fetches. -/
theorem ahead_of_pause {y : Passage α} (hpace : Pace p interval quits x before)
    (hwait : p.wait x.state = .pause interval) (hinterval : interval.isZero = false)
    (hpos : 0 < x.fetched.length) (hfetched : y.fetched = x.fetched)
    (hpauses : y.pauses = x.pauses + 1) (hnext : ∀ span, p.wait y.state ≠ .pause span)
    (hquits : p.wait y.state = .over → quits y.state) :
    Pace p interval quits y (before ++ [.pause interval]) := by
  cases hpace with
  | even hhistory hsame =>
    refine .ahead (by rw [hhistory, hfetched]) ?_ ?_ hinterval hnext hquits
    · rw [hpauses, hsame, hfetched, pausesBetween, hinterval]
      exact Nat.sub_add_cancel hpos
    · rw [hfetched]
      exact List.ne_nil_of_length_pos hpos
  | ahead _ _ _ _ hnone => exact absurd hwait (hnone interval)

end Pace

/-- Whether a poller has come as far as on another passage: the same fetches were answered, and it
waits for the same one next or is over in the same state. -/
structure Matches (p : Poller α) (x y : Passage α) : Prop where
  fetched : y.fetched = x.fetched
  request : ∀ request, p.wait x.state = .reply request → p.wait y.state = .reply request
  ended : p.wait x.state = .over → y.state = x.state

/-- How a poller keeps its pace. -/
structure KeepsPace (p : Poller α) (c : Course) (start : α) (interval : Duration)
    (quits : α → Prop) : Prop where
  /-- With a fetch that it waits for, it has paused just once between any two fetches. -/
  fetching : ∀ n request, p.wait (after p c start n).state = .reply request →
    history p c start n ++ [.reply request] =
      paced interval ((after p c start n).fetched ++ [request])
  /-- It pauses for the interval and behind a fetch, never before the first one. -/
  pausing : ∀ n span, p.wait (after p c start n).state = .pause span →
    span = interval ∧ interval.isZero = false ∧ (after p c start n).fetched ≠ [] ∧
      history p c start n = paced interval (after p c start n).fetched
  /-- When it is over, it has paused between its fetches only, or it quits behind a pause more. -/
  ended : ∀ n, p.wait (after p c start n).state = .over →
    history p c start n = paced interval (after p c start n).fetched ∧
      (after p c start n).pauses = pausesBetween interval (after p c start n).fetched.length ∨
    history p c start n = paced interval (after p c start n).fetched ++ [.pause interval] ∧
      quits (after p c start n).state
  /-- It never pauses for nothing. -/
  restless : interval.isZero = true → ∀ n, (after p c start n).pauses = 0

end Passage

open Passage

/-- Whether a poller pauses for an interval behind each fetch that it goes on from. What holds of it
when so many fetches have been answered is `holds`; only in a state that `quits` it is over behind a
pause. -/
structure Poller.Paces {α : Type} (p : Poller α) (interval : Duration) (holds : Nat → α → Prop)
    (quits : α → Prop) : Prop where
  isBrisk : p.IsBrisk
  pauses : ∀ k a span, holds k a → p.wait a = .pause span →
    span = interval ∧ interval.isZero = false ∧ 0 < k
  paused : ∀ k a span now, holds k a → p.wait a = .pause span →
    holds k (p.resume now .go a) ∧
      (p.wait (p.resume now .go a) = .over → quits (p.resume now .go a))
  replied : ∀ k a request now result, holds k a → p.wait a = .reply request →
    holds (k + 1) (p.resume now (.reply result) a) ∧
      ∀ next, p.wait (p.resume now (.reply result) a) = .reply next → interval.isZero = true

namespace Poller.Paces

variable {α : Type} {p : Poller α} {c : Course} {start : α} {interval : Duration}
  {holds : Nat → α → Prop} {quits : α → Prop}

/-- One step of a poller: it stays in its pace. -/
theorem pace_step (hpaces : p.Paces interval holds quits) {x : Passage α} {before : List Wait}
    (hholds : holds x.fetched.length x.state) (hpace : Pace p interval quits x before) :
    holds (x.step p c).fetched.length (x.step p c).state ∧
      Pace p interval quits (x.step p c) (before ++ x.served p c) := by
  rcases hpaces.isBrisk.waits x.state with hwait | ⟨request, hwait⟩ | ⟨span, hwait⟩
  · have hserved : x.served p c = [] := by simp only [served, hwait]
    rw [step_of_over hwait, hserved, List.append_nil]
    exact ⟨hholds, hpace⟩
  · cases hreply : c.reply x.fetched.length with
    | none =>
      have hserved : x.served p c = [] := by simp only [served, hwait, hreply]; rfl
      rw [step_of_unanswered hwait hreply, hserved, List.append_nil]
      exact ⟨hholds, hpace⟩
    | some result =>
      have hserved : x.served p c = [.reply request] := by simp only [served, hwait, hreply]; rfl
      have hlength : (x.fetched ++ [request]).length = x.fetched.length + 1 := List.length_append
      obtain ⟨hnext, hrestless⟩ := hpaces.replied _ _ request (c.clock (x.fetched.length + 1))
        result hholds hwait
      rw [step_of_reply hwait hreply, hserved, hlength]
      refine ⟨hnext, .even (hpace.history_concat hwait) ?_ fun next hfetch => ?_⟩
      · rw [hlength]
        exact hpace.pauses_eq hwait
      · exact .inr (hrestless next hfetch)
  · have hserved : x.served p c = [.pause span] := by simp only [served, hwait]
    obtain ⟨rfl, hinterval, hpos⟩ := hpaces.pauses _ _ span hholds hwait
    obtain ⟨hnext, hquits⟩ := hpaces.paused _ _ span (c.clock x.fetched.length) hholds hwait
    rw [step_of_pause hwait, hserved]
    refine ⟨hnext,
      hpace.ahead_of_pause hwait hinterval hpos rfl rfl (fun span' hagain => ?_) hquits⟩
    rcases hpaces.isBrisk.paused _ span (c.clock x.fetched.length) hwait with hover | ⟨next, hfetch⟩
    · cases hover.symm.trans hagain
    · cases hfetch.symm.trans hagain

/-- After any number of steps a poller is in its pace. -/
theorem pace_after (hpaces : p.Paces interval holds quits) (hstart : holds 0 start) (n : Nat) :
    holds (after p c start n).fetched.length (after p c start n).state ∧
      Pace p interval quits (after p c start n) (history p c start n) := by
  induction n with
  | zero =>
    refine ⟨hstart, .even ?_ ?_ fun _ _ => .inl rfl⟩
    · unfold paced
      split <;> rfl
    · unfold pausesBetween
      split <;> rfl
  | succ n ih => exact hpaces.pace_step ih.1 ih.2

/-- A poller that pauses behind its fetches keeps its pace. -/
theorem keepsPace (hpaces : p.Paces interval holds quits) (hstart : holds 0 start) :
    KeepsPace p c start interval quits where
  fetching n request hwait := (hpaces.pace_after hstart n).2.history_concat hwait
  pausing n span hwait := by
    obtain ⟨hholds, hpace⟩ := hpaces.pace_after (c := c) hstart n
    obtain ⟨hspan, hinterval, hpos⟩ := hpaces.pauses _ _ span hholds hwait
    cases hpace with
    | even hhistory => exact ⟨hspan, hinterval, List.ne_nil_of_length_pos hpos, hhistory⟩
    | ahead _ _ _ _ hnone => exact absurd hwait (hnone span)
  ended n hover := by
    obtain ⟨_, hpace⟩ := hpaces.pace_after (c := c) hstart n
    cases hpace with
    | even hhistory hpauses => exact .inl ⟨hhistory, hpauses⟩
    | ahead hhistory _ _ _ _ hquits => exact .inr ⟨hhistory, hquits hover⟩
  restless hzero n := by
    obtain ⟨_, hpace⟩ := hpaces.pace_after (c := c) hstart n
    cases hpace with
    | even _ hpauses => rw [hpauses, pausesBetween, if_pos hzero]
    | ahead _ _ _ hinterval => cases hzero.symm.trans hinterval

end Poller.Paces

namespace Watch

/-- What holds of a watch when so many fetches have been answered: it knows its interval and its
fetches, and it pauses only behind a fetch and for something. -/
def IsPolling (interval : Duration) (k : Nat) : Watch → Prop
  | .pausing p => p.interval = interval ∧ p.fetches = k ∧ interval.isZero = false ∧ 0 < k
  | .fetching p _ => p.interval = interval ∧ p.fetches = k
  | .over _ => True

/-- Whether a watch is over for want of a link. -/
def IsUnlinked (w : Watch) : Prop := w = .over (.error (.missingField Snapshot.selfLinkPath))

variable {interval : Duration} {k : Nat} {p : Poll}

/-- A watch that is over does not fetch. -/
theorem isPolling_over (result : Except TrialError Measurement) :
    IsPolling interval k (.over result) ∧
      ∀ next, wait (.over result) = .reply next → interval.isZero = true :=
  ⟨trivial, fun _ hnext => by cases hnext⟩

/-- A watch that goes on from a pause fetches through its link, or quits without one. -/
theorem isPolling_fetch (hinterval : p.interval = interval) (hfetches : p.fetches = k) :
    IsPolling interval k p.fetch ∧ (p.fetch.wait = .over → IsUnlinked p.fetch) := by
  unfold Poll.fetch
  split
  · exact ⟨trivial, fun _ => rfl⟩
  · exact ⟨⟨hinterval, hfetches⟩, nofun⟩

/-- Behind a fetch a watch pauses before the next one, unless it has no interval. -/
theorem isPolling_inspect (clock : Readings) (hinterval : p.interval = interval)
    (hfetches : p.fetches = k + 1) :
    IsPolling interval (k + 1) (p.inspect clock) ∧
      ∀ next, (p.inspect clock).wait = .reply next → interval.isZero = true := by
  unfold Poll.inspect Poll.pace
  split
  · exact isPolling_over _
  · split
    · exact isPolling_over _
    · rw [hinterval, hfetches]
      cases hzero : interval.isZero with
      | true => exact ⟨(isPolling_fetch hinterval hfetches).1, fun _ _ => rfl⟩
      | false => exact ⟨⟨hinterval, hfetches, hzero, Nat.succ_pos k⟩, nofun⟩

/-- A watch begins without a pause. -/
theorem isPolling_start (limit : Option Duration) (interval : Duration) (initial : Snapshot)
    (postedAt now : Instant) :
    IsPolling interval 0 (start limit interval initial postedAt now) := by
  unfold start Poll.inspect
  split
  · trivial
  · split
    · trivial
    · exact (isPolling_fetch rfl rfl).1

/-- A watch pauses behind each fetch that it goes on from. -/
theorem poller_paces (interval : Duration) :
    poller.Paces interval (IsPolling interval) IsUnlinked where
  isBrisk := poller_isBrisk
  pauses k w span hpolling hwait := by
    cases w <;> cases hwait
    obtain ⟨hinterval, _, hsome, hpos⟩ := hpolling
    exact ⟨hinterval, hsome, hpos⟩
  paused k w span now hpolling hwait := by
    cases w <;> cases hwait
    exact isPolling_fetch hpolling.1 hpolling.2.1
  replied k w request now result hpolling hwait := by
    cases w <;> cases hwait
    rename_i p link
    obtain ⟨hinterval, hfetches⟩ := hpolling
    cases result with
    | error e => exact isPolling_over _
    | ok s => exact isPolling_inspect now hinterval (congrArg (· + 1) hfetches)

end Watch

namespace Readiness

/-- What holds of the wait for a fleet when so many fetches have been answered. -/
def IsPolling (interval : Duration) (k : Nat) : Readiness → Prop
  | .pausing c => c.interval = interval ∧ c.fetches = k ∧ interval.isZero = false ∧ 0 < k
  | .fetching c => c.interval = interval ∧ c.fetches = k
  | .over _ => True

/-- A wait that is over does not fetch. -/
theorem isPolling_over {interval : Duration} {k : Nat} (result : Except TrialError Unit) :
    IsPolling interval k (.over result) ∧
      ∀ next, wait (.over result) = .reply next → interval.isZero = true :=
  ⟨trivial, fun _ hnext => by cases hnext⟩

/-- Behind a fetch the wait pauses before the next one, unless it has no interval. -/
theorem isPolling_next {interval : Duration} {k : Nat} {c : Census} (now : Instant)
    (hinterval : c.interval = interval) (hfetches : c.fetches = k + 1) :
    IsPolling interval (k + 1) (c.next now) ∧
      ∀ next, (c.next now).wait = .reply next → interval.isZero = true := by
  unfold Census.next
  split
  · exact isPolling_over _
  · rw [hinterval, hfetches]
    cases hzero : interval.isZero with
    | true => exact ⟨⟨hinterval, hfetches⟩, fun _ _ => rfl⟩
    | false => exact ⟨⟨hinterval, hfetches, hzero, Nat.succ_pos k⟩, nofun⟩

/-- The wait begins without a pause. -/
theorem isPolling_start (limit : Option Duration) (interval : Duration) (handle : String)
    (target : UInt64) (now : Instant) :
    IsPolling interval 0 (start limit interval handle target now) := by
  unfold start Census.next
  split
  · trivial
  · exact ⟨rfl, rfl⟩

/-- The wait pauses behind each fetch that it goes on from, and never ends behind a pause. -/
theorem poller_paces (interval : Duration) :
    poller.Paces interval (IsPolling interval) fun _ => False where
  isBrisk := poller_isBrisk
  pauses k r span hpolling hwait := by
    cases r <;> cases hwait
    obtain ⟨hinterval, _, hsome, hpos⟩ := hpolling
    exact ⟨hinterval, hsome, hpos⟩
  paused k r span now hpolling hwait := by
    cases r <;> cases hwait
    exact ⟨⟨hpolling.1, hpolling.2.1⟩, fun hover => by cases hover⟩
  replied k r request now result hpolling hwait := by
    cases r <;> cases hwait
    rename_i c
    obtain ⟨hinterval, hfetches⟩ := hpolling
    cases result with
    | error e => exact isPolling_over _
    | ok s =>
      simp only [poller, resume]
      split
      · exact isPolling_over _
      · exact isPolling_next now hinterval (congrArg (· + 1) hfetches)

end Readiness

namespace Vigil

variable {v : Vigil} {k made : Nat} {s : Snapshot} {r : Except TrialError Measurement}
  {fetched : List Request}

/-- The same watch with another interval. -/
def repaced (v : Vigil) (interval : Duration) : Vigil := { v with interval }

/-- With another interval a watch is late at the same looks. -/
theorem outlasts_repaced (v : Vigil) (interval : Duration) : (v.repaced interval).Outlasts v where
  initial_eq := rfl
  reply_eq := rfl
  late _ hlate := hlate

/-- With another interval the same looks end a watch in the same way. -/
theorem EndsAt.repaced (hends : v.EndsAt k made r) (interval : Duration) :
    (v.repaced interval).EndsAt k made r := by
  have houtlasts := v.outlasts_repaced interval
  have hsame := houtlasts.snapshot?_eq k
  cases hends with
  | allocated hseen hstate => exact .allocated (hsame.trans hseen) hstate
  | unallocated hseen hstate => exact .unallocated (hsame.trans hseen) hstate
  | timedOut hseen hallocated hunallocated hlate =>
    exact .timedOut (hsame.trans hseen) hallocated hunallocated hlate
  | unlinked hopen hlink => exact .unlinked (houtlasts.isOpen hopen) hlink
  | failed hopen hlink hreply => exact .failed (houtlasts.isOpen hopen) hlink hreply

/-- With another interval a watch makes the same fetches if it makes as many. -/
theorem fetched_repaced {interval : Duration} {n n' : Nat}
    (hlength : ((v.repaced interval).after n').fetched.length = (v.after n).fetched.length) :
    ((v.repaced interval).after n').fetched = (v.after n).fetched := by
  have hlinks := (v.outlasts_repaced interval).followsLinks_iff.mp
    ((v.repaced interval).exists_stage n').1
  exact (hlinks.isPrefix (v.exists_stage n).1 hlength.le).eq_of_length hlength

/-- With another interval a watch comes just as far. -/
theorem exists_matches_repaced (v : Vigil) (interval : Duration) (n : Nat) :
    ∃ n', Matches Watch.poller (v.after n) ((v.repaced interval).after n') := by
  have houtlasts := v.outlasts_repaced interval
  obtain ⟨-, k, hstage, hnone⟩ := v.exists_stage n
  have hnone' : ∀ j < k, ∀ made r, ¬ (v.repaced interval).EndsAt j made r :=
    fun j hj made r hends => hnone j hj made r (hends.repaced v.interval)
  cases hstage with
  | pausing hopen hstate hlength =>
    obtain ⟨n', -, hlength'⟩ := exists_look (houtlasts.isOpen hopen).seen hnone'
    refine ⟨n', fetched_repaced (hlength'.trans hlength.symm), fun request hwait => ?_,
      fun hover => ?_⟩
    · rw [hstate] at hwait
      cases hwait
    · rw [hstate] at hover
      cases hover
  | @fetching s link hopen hlink hstate hlength =>
    have hopen' := houtlasts.isOpen hopen
    obtain ⟨m, hlook⟩ := exists_look hopen'.seen hnone'
    obtain ⟨n', hfetch, hlength'⟩ := exists_fetch_after_look hopen' hlook
    have hnext : ((v.repaced interval).poll k s).fetch =
        .fetching ((v.repaced interval).poll k s) link := by
      simp only [Poll.fetch, poll, hlink]
    refine ⟨n', fetched_repaced (hlength'.trans hlength.symm), fun request hwait => ?_,
      fun hover => ?_⟩
    · rw [hstate] at hwait
      rw [hfetch, hnext]
      exact hwait
    · rw [hstate] at hover
      cases hover
  | ended hends hstate =>
    obtain ⟨n', hstate', hlength'⟩ := exists_over_of_endsFirstAt ⟨hends.repaced interval, hnone'⟩
    refine ⟨n', fetched_repaced hlength', fun request hwait => ?_,
      fun _ => hstate'.trans hstate.symm⟩
    rw [hstate] at hwait
    cases hwait

end Vigil

namespace Muster

variable {m : Muster} {k made : Nat} {r : Except TrialError Unit}

/-- The same wait with another interval. -/
def repaced (m : Muster) (interval : Duration) : Muster := { m with interval }

/-- With another interval the wait has seen the same numbers. -/
theorem lastSeen_repaced (m : Muster) (interval : Duration) (k : Nat) :
    (m.repaced interval).lastSeen k = m.lastSeen k := by
  induction k with
  | zero => rfl
  | succ k ih => simp only [lastSeen, ih]; rfl

/-- With another interval the same fetches leave the wait open. -/
theorem Passes.repaced (hpasses : m.Passes k) (interval : Duration) :
    (m.repaced interval).Passes k :=
  ⟨hpasses.in_time, hpasses.unready⟩

/-- With another interval the same fetch ends the wait in the same way. -/
theorem EndsFirstAt.repaced (hfirst : m.EndsFirstAt k made r) (interval : Duration) :
    (m.repaced interval).EndsFirstAt k made r := by
  refine ⟨fun j hj => (hfirst.1 j hj).repaced interval, ?_⟩
  cases hfirst.2 with
  | timedOut hlate =>
    rw [← m.lastSeen_repaced interval k]
    exact .timedOut hlate
  | failed hintime hreply => exact .failed hintime hreply
  | ready hintime hreply hready => exact .ready hintime hreply hready

/-- With another interval the wait comes just as far. -/
theorem exists_matches_repaced (m : Muster) (interval : Duration) (n : Nat) :
    ∃ n', Matches Readiness.poller (m.after n) ((m.repaced interval).after n') := by
  have hfetched {n' : Nat}
      (hlength : ((m.repaced interval).after n').fetched.length = (m.after n).fetched.length) :
      ((m.repaced interval).after n').fetched = (m.after n).fetched := by
    rw [fetched_eq_replicate, hlength, m.fetched_eq_replicate n, List.length_replicate]
    rfl
  obtain ⟨k, hstage, hpasses⟩ := m.exists_stage n
  have hpasses' : ∀ j < k, (m.repaced interval).Passes j := fun j hj =>
    (hpasses j hj).repaced interval
  cases hstage with
  | pausing hopen hstate hlength =>
    obtain ⟨n', -, hlength'⟩ := exists_next hpasses'
    refine ⟨n', hfetched (hlength'.trans hlength.symm), fun request hwait => ?_,
      fun hover => ?_⟩
    · rw [hstate] at hwait
      cases hwait
    · rw [hstate] at hover
      cases hover
  | fetching hopen hstate hlength =>
    obtain ⟨n', hstate', hlength'⟩ := exists_fetch hpasses' hopen.in_time
    refine ⟨n', hfetched (hlength'.trans hlength.symm), fun request hwait => ?_,
      fun hover => ?_⟩
    · rw [hstate] at hwait
      rw [hstate']
      exact hwait
    · rw [hstate] at hover
      cases hover
  | ended r hends hstate =>
    have hfirst : m.EndsFirstAt k (m.after n).fetched.length r := ⟨hpasses, hends⟩
    obtain ⟨n', hstate', hlength'⟩ := exists_over_of_endsFirstAt (hfirst.repaced interval)
    refine ⟨n', hfetched hlength', fun request hwait => ?_, fun _ => hstate'.trans hstate.symm⟩
    rw [hstate] at hwait
    cases hwait

end Muster

/-- **The pace of pollers.** A watch and the wait for a fleet never pause before their first fetch,
and just once, for their interval, between any two fetches, unless the interval is empty. So a watch
that measures something has paused once less than it has fetched, and so has a wait that is over,
however it ends. With another interval both make the same requests and end in the same way. -/
theorem pollers_keep_pace (v : Vigil) (m : Muster) :
    KeepsPace Watch.poller v.course v.start v.interval Watch.IsUnlinked ∧
    KeepsPace Readiness.poller m.course m.start m.interval (fun _ => False) ∧
    (∀ n measured, (v.after n).state = .over (.ok measured) →
      measured.fetches = (v.after n).fetched.length ∧
        (v.after n).pauses = if v.interval.isZero then 0 else measured.fetches - 1) ∧
    (∀ n r, (m.after n).state = .over r →
      (m.after n).pauses = if m.interval.isZero then 0 else (m.after n).fetched.length - 1) ∧
    (∀ interval n, ∃ n', Matches Watch.poller (v.after n) ((v.repaced interval).after n')) ∧
    ∀ interval n, ∃ n', Matches Readiness.poller (m.after n) ((m.repaced interval).after n') := by
  have hwatch := (Watch.poller_paces v.interval).keepsPace (c := v.course)
    (Watch.isPolling_start v.limit v.interval v.initial v.postedAt (v.course.clock 0))
  have hwait := (Readiness.poller_paces m.interval).keepsPace (c := m.course)
    (Readiness.isPolling_start m.limit m.interval m.handle m.target (m.course.clock 0))
  refine ⟨hwatch, hwait, fun n measured hover => ?_, fun n r hover => ?_,
    v.exists_matches_repaced, m.exists_matches_repaced⟩
  · obtain ⟨k, hends, -⟩ := Vigil.endsFirstAt_of_over hover
    obtain ⟨hmade, hfetches, -⟩ := hends.measured
    have hsame : measured.fetches = (v.after n).fetched.length := hfetches.trans hmade.symm
    obtain ⟨-, hpauses⟩ | ⟨-, hunlinked⟩ := hwatch.ended n (congrArg Watch.wait hover)
    · exact ⟨hsame, hsame ▸ hpauses⟩
    · cases hover.symm.trans hunlinked
  · obtain ⟨-, hpauses⟩ | ⟨-, hquits⟩ := hwait.ended n (congrArg Readiness.wait hover)
    · exact hpauses
    · exact hquits.elim

/-- The watch of an allocation that is decided with its third fetch, with pauses between them. -/
def Vigil.unhurried : Vigil := (Vigil.settling none).repaced ⟨7⟩

/-- Three fetches have two pauses between them, and without an interval they bring the same
measurement. -/
theorem pollers_keep_pace_of_unhurried :
    (Vigil.unhurried.after 5).state = .over (.ok ⟨.allocated, 6, 3⟩) ∧
    (Vigil.unhurried.after 5).pauses = 2 ∧
    history Watch.poller Vigil.unhurried.course Vigil.unhurried.start 5 =
      [.reply (.fetch "/a"), .pause ⟨7⟩, .reply (.fetch "/a"), .pause ⟨7⟩, .reply (.fetch "/a")] ∧
    ∃ n, ((Vigil.settling none).after n).state = .over (.ok ⟨.allocated, 6, 3⟩) ∧
      ((Vigil.settling none).after n).pauses = 0 := by
  have hover : (Vigil.unhurried.after 5).state = .over (.ok ⟨.allocated, 6, 3⟩) := rfl
  obtain ⟨hwatch, -, hmeasured, -, hrepaced, -⟩ :=
    pollers_keep_pace Vigil.unhurried (.uneventful none)
  obtain ⟨hidle, -⟩ := pollers_keep_pace (Vigil.settling none) (.uneventful none)
  refine ⟨hover, (hmeasured 5 _ hover).2, ?_, ?_⟩
  · obtain ⟨hhistory, -⟩ | ⟨-, hunlinked⟩ := hwatch.ended 5 (congrArg Watch.wait hover)
    · exact hhistory
    · cases hover.symm.trans hunlinked
  · obtain ⟨n, hmatches⟩ := hrepaced .zero 5
    exact ⟨n, hmatches.ended (congrArg Watch.wait hover), hidle.restless rfl n⟩

end FleetTrial
