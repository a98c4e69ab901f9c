import FleetTrial.Proofs.Polling.Progress
import FleetTrial.Proofs.Time.Elapsing
import FleetTrial.Trial.Readiness

/-!
# How the wait for a fleet ends

A fleet is fetched through one and the same handle. Before each fetch the deadline is looked at;
behind it the answer is, which ends the wait by the wanted number of ready replicas or by a
failure. The number that is remembered from earlier answers is never the wanted one, for the wait
would have ended at the answer that brought it. So it is only the answer itself that can end the
wait well, and what is remembered shows in nothing but the text of a time-out.
-/

namespace FleetTrial

/-- The wait for a fleet as a poller. -/
def Readiness.poller : Poller Readiness := ⟨Readiness.wait, Readiness.resume⟩

/-- A fleet that is waited for, with all that the wait meets. -/
structure Muster where
  limit : Option Duration
  interval : Duration
  handle : String
  /-- The number of ready replicas to wait for. -/
  target : UInt64
  course : Course

namespace Muster

variable {m : Muster} {k made : Nat} {r : Except TrialError Unit}

/-- The nanoseconds from the start of the wait to the instant before fetch `k`. -/
def elapsed (m : Muster) (k : Nat) : Nat := (m.course.clock k).nanos - (m.course.clock 0).nanos

/-- Whether the deadline has passed before fetch `k`. -/
def IsLate (m : Muster) (k : Nat) : Prop :=
  ∃ limit, m.limit = some limit ∧ limit.nanos ≤ m.elapsed k

/-- The last number of ready replicas that one of the first replies has brought. -/
def lastSeen (m : Muster) : Nat → Option UInt64
  | 0 => none
  | k + 1 =>
    match m.course.reply k with
    | some (.ok s) => s.readyReplicas?.or (m.lastSeen k)
    | _ => m.lastSeen k

/-- The three rules that end the wait at fetch `k`, with the number of fetches that were made by
then and the result. -/
inductive EndsAt (m : Muster) (k : Nat) : Nat → Except TrialError Unit → Prop
  | timedOut (hlate : m.IsLate k) :
    EndsAt m k k (.error (.timedOut (.fleetReady m.target (m.lastSeen k)) ⟨m.elapsed k⟩))
  | failed {e : TrialError} (hintime : ¬ m.IsLate k) (hreply : m.course.reply k = some (.error e)) :
    EndsAt m k (k + 1) (.error e)
  | ready {s : Snapshot} (hintime : ¬ m.IsLate k) (hreply : m.course.reply k = some (.ok s))
    (hready : s.readyReplicas? = some m.target) :
    EndsAt m k (k + 1) (.ok ())

/-- Whether fetch `k` leaves the wait as open as it was: it is made in time, and a snapshot answers
it that does not bring the wanted number. -/
structure Passes (m : Muster) (k : Nat) : Prop where
  in_time : ¬ m.IsLate k
  unready : ∃ s, m.course.reply k = some (.ok s) ∧ s.readyReplicas? ≠ some m.target

/-- Whether fetch `k` is the first one that ends the wait. -/
def EndsFirstAt (m : Muster) (k made : Nat) (r : Except TrialError Unit) : Prop :=
  (∀ j < k, m.Passes j) ∧ m.EndsAt k made r

/-- Whether reply `k` brings a number of ready replicas. -/
def Reports (m : Muster) (k : Nat) (ready : UInt64) : Prop :=
  ∃ s, m.course.reply k = some (.ok s) ∧ s.readyReplicas? = some ready

/-- What is known of the fleet before fetch `k`. -/
def census (m : Muster) (k : Nat) : Census :=
  ⟨m.handle, m.target, ⟨m.course.clock 0, m.limit⟩, m.interval, m.lastSeen k, k⟩

/-- The wait before its first fetch. -/
def start (m : Muster) : Readiness :=
  Readiness.start m.limit m.interval m.handle m.target (m.course.clock 0)

/-- How far the wait has come after so many steps. -/
def after (m : Muster) (n : Nat) : Passage Readiness :=
  Passage.after Readiness.poller m.course m.start n

/-- Whether the wait goes on to fetch `k`: there is time left, and the wanted number has not been
seen. -/
structure IsOpen (m : Muster) (k : Nat) : Prop where
  in_time : ¬ m.IsLate k
  unready : m.lastSeen k ≠ some m.target

/-- The deadline of a census has passed exactly if the wait is late. -/
theorem expired_census_iff :
    (m.census k).deadline.expired (m.course.clock k) = true ↔ m.IsLate k :=
  Deadline.expired_iff

/-- Where the wait stands between two of its steps, `k` fetches having been answered without
ending it. -/
inductive Stage (m : Muster) (k : Nat) (x : Passage Readiness) : Prop
  | pausing (hopen : m.IsOpen k) (hstate : x.state = .pausing (m.census k))
    (hlength : x.fetched.length = k)
  | fetching (hopen : m.IsOpen k) (hstate : x.state = .fetching (m.census k))
    (hlength : x.fetched.length = k)
  | ended (r : Except TrialError Unit) (hends : m.EndsAt k x.fetched.length r)
    (hstate : x.state = .over r)

/-- The stage of a wait that goes on with what it knows of the fleet. -/
theorem stage_of_next {x : Passage Readiness} (hunready : m.lastSeen k ≠ some m.target)
    (hstate : x.state = (m.census k).next (m.course.clock k)) (hlength : x.fetched.length = k) :
    m.Stage k x := by
  unfold Census.next at hstate
  by_cases hlate : m.IsLate k
  · rw [if_pos (expired_census_iff.mpr hlate)] at hstate
    refine .ended _ ?_ hstate
    rw [hlength]
    exact .timedOut hlate
  · have hopen : m.IsOpen k := ⟨hlate, hunready⟩
    rw [if_neg fun hexpired => hlate (expired_census_iff.mp hexpired)] at hstate
    split at hstate
    · exact .pausing hopen hstate hlength
    · exact .fetching hopen hstate hlength

/-- Behind a reply with a snapshot the wait knows what the snapshot says. -/
theorem see_census {s : Snapshot} (hreply : m.course.reply k = some (.ok s)) :
    (m.census k).see s = m.census (k + 1) := by
  simp only [Census.see, census, lastSeen, hreply]

/-- A reply brings the wanted number, or it leaves the wait without it. -/
theorem IsOpen.lastSeen_succ {s : Snapshot} (hopen : m.IsOpen k)
    (hreply : m.course.reply k = some (.ok s)) :
    m.lastSeen (k + 1) = some m.target ↔ s.readyReplicas? = some m.target := by
  have hnext : m.lastSeen (k + 1) = s.readyReplicas?.or (m.lastSeen k) := by
    simp only [lastSeen, hreply]
  rw [hnext]
  cases hready : s.readyReplicas? with
  | none => simp only [Option.none_or, hopen.unready, reduceCtorEq]
  | some ready => rw [Option.some_or]

/-- What an answered fetch makes of the wait. -/
theorem resume_fetching {s : Snapshot} (hreply : m.course.reply k = some (.ok s)) (now : Instant) :
    Readiness.resume now (.reply (.ok s)) (.fetching (m.census k)) =
      if m.lastSeen (k + 1) = some m.target then .over (.ok ())
      else (m.census (k + 1)).next now := by
  simp only [Readiness.resume, see_census hreply]
  rfl

/-- One step of the wait: it stays before its next fetch, or the fetch brings a snapshot without the
wanted number and it goes on from there. -/
theorem Stage.step {x : Passage Readiness} (hstage : m.Stage k x) :
    m.Stage k (x.step Readiness.poller m.course) ∨
      m.Stage (k + 1) (x.step Readiness.poller m.course) ∧ m.Passes k := by
  cases hstage with
  | pausing hopen hstate hlength =>
    have hwait : Readiness.poller.wait x.state = .pause m.interval := by rw [hstate]; rfl
    rw [Passage.step_of_pause hwait]
    exact .inl (.fetching hopen (by rw [hstate]; rfl) hlength)
  | fetching hopen hstate hlength =>
    have hwait : Readiness.poller.wait x.state = .reply (.fetch m.handle) := by rw [hstate]; rfl
    cases hreply : m.course.reply k with
    | none =>
      rw [Passage.step_of_unanswered hwait (hlength ▸ hreply)]
      exact .inl (.fetching hopen hstate hlength)
    | some result =>
      rw [Passage.step_of_reply hwait (hlength ▸ hreply)]
      have hlength' : (x.fetched ++ [Request.fetch m.handle]).length = k + 1 := by
        rw [List.length_append, List.length_singleton, hlength]
      cases result with
      | error e =>
        refine .inl (.ended (.error e) ?_ (by rw [hstate]; rfl))
        rw [hlength']
        exact .failed hopen.in_time hreply
      | ok s =>
        have hresume : Readiness.poller.resume (m.course.clock (k + 1)) (.reply (.ok s)) x.state =
            if m.lastSeen (k + 1) = some m.target then .over (.ok ())
            else (m.census (k + 1)).next (m.course.clock (k + 1)) := by
          rw [hstate]
          exact resume_fetching hreply _
        by_cases hready : s.readyReplicas? = some m.target
        · rw [if_pos ((hopen.lastSeen_succ hreply).mpr hready)] at hresume
          refine .inl (.ended (.ok ()) ?_ (by rw [hlength, hresume]))
          rw [hlength']
          exact .ready hopen.in_time hreply hready
        · have hunready := mt (hopen.lastSeen_succ hreply).mp hready
          rw [if_neg hunready] at hresume
          exact .inr ⟨stage_of_next hunready (by rw [hlength, hresume]) hlength',
            hopen.in_time, s, hreply, hready⟩
  | ended r hends hstate =>
    rw [Passage.step_of_over (by rw [hstate]; rfl)]
    exact .inl (.ended r hends hstate)

/-- After any number of steps the wait stands before some fetch, or it has ended there, and all
fetches before that one have left it open. -/
theorem exists_stage (m : Muster) (n : Nat) :
    ∃ k, m.Stage k (m.after n) ∧ ∀ j < k, m.Passes j := by
  induction n with
  | zero => exact ⟨0, stage_of_next nofun rfl rfl, fun j hj => absurd hj (Nat.not_lt_zero j)⟩
  | succ n ih =>
    obtain ⟨k, hstage, hpasses⟩ := ih
    rcases hstage.step with hstage' | ⟨hstage', hpass⟩
    · exact ⟨k, hstage', hpasses⟩
    · refine ⟨k + 1, hstage', fun j hj => ?_⟩
      rcases Nat.lt_succ_iff_lt_or_eq.mp hj with hlt | rfl
      · exact hpasses j hlt
      · exact hpass

/-- The wait requests nothing but the snapshot of its handle. -/
theorem request_eq {n : Nat} {request : Request} (hwait : (m.after n).state.wait = .reply request) :
    request = .fetch m.handle := by
  obtain ⟨k, hstage, _⟩ := m.exists_stage n
  cases hstage with
  | pausing hopen hstate => rw [hstate] at hwait; cases hwait
  | fetching hopen hstate => rw [hstate] at hwait; cases hwait; rfl
  | ended r hends hstate => rw [hstate] at hwait; cases hwait

theorem after_succ (m : Muster) (n : Nat) :
    m.after (n + 1) = (m.after n).step Readiness.poller m.course := rfl

/-- All fetches that were answered were of the handle. -/
theorem fetched_eq_replicate (m : Muster) (n : Nat) :
    (m.after n).fetched = List.replicate (m.after n).fetched.length (.fetch m.handle) := by
  refine List.eq_replicate_iff.mpr ⟨rfl, ?_⟩
  induction n with
  | zero => exact nofun
  | succ n ih =>
    rw [after_succ]
    rcases Passage.fetched_step Readiness.poller m.course (m.after n) with hsame | ⟨r, hwait, hmore⟩
    · rwa [hsame]
    · intro request hrequest
      rw [hmore, List.mem_append, List.mem_singleton] at hrequest
      rcases hrequest with hold | rfl
      · exact ih request hold
      · exact request_eq hwait

/-- A wait that is over has ended at the first fetch that ends it. -/
theorem endsFirstAt_of_over {n : Nat} (hover : (m.after n).state = .over r) :
    ∃ k, m.EndsFirstAt k (m.after n).fetched.length r := by
  obtain ⟨k, hstage, hpasses⟩ := m.exists_stage n
  cases hstage with
  | pausing hopen hstate => cases hover.symm.trans hstate
  | fetching hopen hstate => cases hover.symm.trans hstate
  | ended r' hends hstate =>
    cases hover.symm.trans hstate
    exact ⟨k, hpasses, hends⟩

/-- As long as all fetches leave the wait open, the wanted number has not been seen. -/
theorem lastSeen_ne_target (hpasses : ∀ j < k, m.Passes j) : m.lastSeen k ≠ some m.target := by
  induction k with
  | zero => exact nofun
  | succ k ih =>
    have hunready := ih fun j hj => hpasses j (Nat.lt_succ_of_lt hj)
    obtain ⟨hintime, s, hreply, hready⟩ := hpasses k (Nat.lt_succ_self k)
    exact mt (IsOpen.lastSeen_succ ⟨hintime, hunready⟩ hreply).mp hready

/-- A wait that comes to a fetch in time makes it, if need be after a pause. -/
theorem exists_fetch_of_next {n : Nat} (hintime : ¬ m.IsLate k)
    (hstate : (m.after n).state = (m.census k).next (m.course.clock k))
    (hlength : (m.after n).fetched.length = k) :
    ∃ n, (m.after n).state = .fetching (m.census k) ∧ (m.after n).fetched.length = k := by
  unfold Census.next at hstate
  rw [if_neg fun hexpired => hintime (expired_census_iff.mp hexpired)] at hstate
  split at hstate
  · have hwait : Readiness.poller.wait (m.after n).state = .pause m.interval := by rw [hstate]; rfl
    refine ⟨n + 1, ?_⟩
    rw [after_succ, Passage.step_of_pause hwait]
    exact ⟨by rw [hstate]; rfl, hlength⟩
  · exact ⟨n, hstate, hlength⟩

/-- A fetch that is answered takes the wait on, at the next instant of its course. -/
theorem after_reply {n : Nat} {result : Except TrialError Snapshot}
    (hstate : (m.after n).state = .fetching (m.census k))
    (hlength : (m.after n).fetched.length = k) (hreply : m.course.reply k = some result) :
    (m.after (n + 1)).state =
        (Readiness.fetching (m.census k)).resume (m.course.clock (k + 1)) (.reply result) ∧
      (m.after (n + 1)).fetched.length = k + 1 := by
  have hwait : Readiness.poller.wait (m.after n).state = .reply (.fetch m.handle) := by
    rw [hstate]; rfl
  rw [after_succ, Passage.step_of_reply hwait (hlength ▸ hreply)]
  refine ⟨?_, by rw [List.length_append, List.length_singleton, hlength]⟩
  rw [hstate, hlength]
  rfl

/-- A fetch that is answered with a snapshot ends the wait well or takes it to the next fetch. -/
theorem after_fetch {n : Nat} {s : Snapshot} (hstate : (m.after n).state = .fetching (m.census k))
    (hlength : (m.after n).fetched.length = k) (hreply : m.course.reply k = some (.ok s)) :
    (m.after (n + 1)).state = (if m.lastSeen (k + 1) = some m.target then .over (.ok ())
      else (m.census (k + 1)).next (m.course.clock (k + 1))) ∧
    (m.after (n + 1)).fetched.length = k + 1 := by
  obtain ⟨hnext, hmore⟩ := after_reply hstate hlength hreply
  exact ⟨hnext.trans (resume_fetching hreply _), hmore⟩

/-- The wait comes to every fetch that all earlier ones leave open. -/
theorem exists_next (hpasses : ∀ j < k, m.Passes j) :
    ∃ n, (m.after n).state = (m.census k).next (m.course.clock k) ∧
      (m.after n).fetched.length = k := by
  induction k with
  | zero => exact ⟨0, rfl, rfl⟩
  | succ k ih =>
    obtain ⟨n, hstate, hlength⟩ := ih fun j hj => hpasses j (Nat.lt_succ_of_lt hj)
    obtain ⟨hintime, s, hreply, _⟩ := hpasses k (Nat.lt_succ_self k)
    obtain ⟨n', hfetching, hlength'⟩ := exists_fetch_of_next hintime hstate hlength
    have hafter := after_fetch hfetching hlength' hreply
    rw [if_neg (lastSeen_ne_target hpasses)] at hafter
    exact ⟨n' + 1, hafter⟩

/-- The wait makes every fetch that all earlier ones leave open, if there is time left for it. -/
theorem exists_fetch (hpasses : ∀ j < k, m.Passes j) (hintime : ¬ m.IsLate k) :
    ∃ n, (m.after n).state = .fetching (m.census k) ∧ (m.after n).fetched.length = k := by
  obtain ⟨n, hstate, hlength⟩ := exists_next hpasses
  exact exists_fetch_of_next hintime hstate hlength

/-- The wait ends at the first fetch that ends it. -/
theorem exists_over_of_endsFirstAt (hfirst : m.EndsFirstAt k made r) :
    ∃ n, (m.after n).state = .over r ∧ (m.after n).fetched.length = made := by
  obtain ⟨hpasses, hends⟩ := hfirst
  cases hends with
  | timedOut hlate =>
    obtain ⟨n, hstate, hlength⟩ := exists_next hpasses
    refine ⟨n, hstate.trans ?_, hlength⟩
    unfold Census.next
    rw [if_pos (expired_census_iff.mpr hlate)]
    rfl
  | failed hintime hreply =>
    obtain ⟨n, hstate, hlength⟩ := exists_fetch hpasses hintime
    exact ⟨n + 1, after_reply hstate hlength hreply⟩
  | ready hintime hreply hready =>
    obtain ⟨n, hstate, hlength⟩ := exists_fetch hpasses hintime
    have hopen : m.IsOpen k := ⟨hintime, lastSeen_ne_target hpasses⟩
    have hafter := after_fetch hstate hlength hreply
    rw [if_pos ((hopen.lastSeen_succ hreply).mpr hready)] at hafter
    exact ⟨n + 1, hafter⟩

/-- A number that a reply brings is remembered next. -/
theorem Reports.lastSeen_succ {ready : UInt64} (hreports : m.Reports k ready) :
    m.lastSeen (k + 1) = some ready := by
  obtain ⟨s, hreply, hready⟩ := hreports
  simp only [lastSeen, hreply, hready, Option.some_or]

/-- A reply without a number leaves what is remembered. -/
theorem lastSeen_succ_of_silent (hsilent : ∀ ready, ¬ m.Reports k ready) :
    m.lastSeen (k + 1) = m.lastSeen k := by
  rw [lastSeen]
  split
  · rename_i s hreply
    cases hready : s.readyReplicas? with
    | none => exact Option.none_or
    | some ready => exact absurd ⟨s, hreply, hready⟩ (hsilent ready)
  · rfl

/-- What is remembered is the number that the last reply with one has brought. -/
theorem lastSeen_eq_some_iff {ready : UInt64} :
    m.lastSeen k = some ready ↔
      ∃ j < k, m.Reports j ready ∧ ∀ i, j < i → i < k → ∀ other, ¬ m.Reports i other := by
  constructor
  · intro hseen
    induction k with
    | zero => cases hseen
    | succ k ih =>
      by_cases hreports : ∃ latest, m.Reports k latest
      · obtain ⟨latest, hlatest⟩ := hreports
        cases hlatest.lastSeen_succ.symm.trans hseen
        exact ⟨k, Nat.lt_succ_self k, hlatest, fun i hki hik => absurd hik (by omega)⟩
      · rw [lastSeen_succ_of_silent (not_exists.mp hreports)] at hseen
        obtain ⟨j, hj, hreport, hnone⟩ := ih hseen
        refine ⟨j, Nat.lt_succ_of_lt hj, hreport, fun i hji hik => ?_⟩
        rcases Nat.lt_succ_iff_lt_or_eq.mp hik with hlt | rfl
        · exact hnone i hji hlt
        · exact not_exists.mp hreports
  · rintro ⟨j, hj, hreport, hnone⟩
    -- From the reply behind which it is remembered on, no other number takes its place.
    obtain ⟨gap, rfl⟩ := Nat.exists_eq_add_of_le (Nat.succ_le_of_lt hj)
    induction gap with
    | zero => exact hreport.lastSeen_succ
    | succ gap ih =>
      have hsilent := hnone (j + 1 + gap) (by omega) (by omega)
      rw [show j.succ + (gap + 1) = j + 1 + gap + 1 from rfl, lastSeen_succ_of_silent hsilent]
      exact ih (by omega) fun i hji hik => hnone i hji (by omega)

/-- The error of a wait that is late before fetch `k`. -/
def timeout (m : Muster) (k : Nat) : TrialError :=
  .timedOut (.fleetReady m.target (m.lastSeen k)) ⟨m.elapsed k⟩

/-- What is shown of a number that may not have been seen. -/
def seenText (seen : Option UInt64) : String := seen.elim "none" fun ready => toString ready.toNat

/-- How the wait for a fleet goes, whatever it meets. -/
structure IsExact (m : Muster) : Prop where
  /-- It requests nothing but the snapshot of its handle. -/
  one_handle : ∀ n, (∀ request ∈ (m.after n).fetched, request = .fetch m.handle) ∧
    ∀ request, (m.after n).state.wait = .reply request → request = .fetch m.handle
  /-- It is over exactly if some fetch ends it, with the result of the first such fetch and without
  a fetch more than that takes. -/
  ends : ∀ made r, (∃ n, (m.after n).state = .over r ∧ (m.after n).fetched.length = made) ↔
    ∃ k, m.EndsFirstAt k made r
  /-- As long as the fetches leave it open and it is in time, it goes on to the next one. -/
  goes_on : ∀ k, (∀ j < k, m.Passes j) → ¬ m.IsLate k →
    ∃ n, (m.after n).state.wait = .reply (.fetch m.handle) ∧ (m.after n).fetched.length = k
  /-- It ends well exactly at the first reply whose own status has the wanted number, no matter how
  late the reply comes, if all fetches up to that one were made in time. -/
  ready : ∀ made, (∃ n, (m.after n).state = .over (.ok ()) ∧ (m.after n).fetched.length = made) ↔
    ∃ k s status, made = k + 1 ∧ (∀ j < k, m.Passes j) ∧ ¬ m.IsLate k ∧
      m.course.reply k = some (.ok s) ∧ s.status = some status ∧
      status.readyReplicas = some m.target
  /-- It times out before the first fetch that would be late, and says what it waited for, for how
  long, and which number it has seen last. -/
  late : ∀ k, (∀ j < k, m.Passes j) → m.IsLate k →
    (∃ n, (m.after n).state = .over (.error (m.timeout k)) ∧ (m.after n).fetched.length = k) ∧
      (m.timeout k).message = "Timed out after " ++ Duration.shortText ⟨m.elapsed k⟩ ++
        " waiting for fleet to reach " ++ toString m.target.toNat ++
        " ready replicas (last seen " ++ seenText (m.lastSeen k) ++ ")"
  /-- The number that it has seen last is that of the last reply with one. -/
  remembers : ∀ k ready, m.lastSeen k = some ready ↔
    ∃ j < k, m.Reports j ready ∧ ∀ i, j < i → i < k → ∀ other, ¬ m.Reports i other
  /-- Without any time it fetches nothing at all. -/
  timeless : m.limit = some .zero → ∀ n, (m.after n).fetched = [] ∧
    (m.after n).state = .over (.error (.timedOut (.fleetReady m.target none) .zero))

/-- A snapshot shows a number of ready replicas exactly if it has a status with that number. -/
theorem readyReplicas?_eq_some_iff {s : Snapshot} {ready : UInt64} :
    s.readyReplicas? = some ready ↔
      ∃ status, s.status = some status ∧ status.readyReplicas = some ready :=
  Option.bind_eq_some_iff

/-- Only a reply with the wanted number ends the wait well. -/
theorem EndsAt.ready_of_ok (hends : m.EndsAt k made (.ok ())) :
    made = k + 1 ∧ ¬ m.IsLate k ∧
      ∃ s, m.course.reply k = some (.ok s) ∧ s.readyReplicas? = some m.target := by
  cases hends with
  | ready hintime hreply hready => exact ⟨rfl, hintime, _, hreply, hready⟩

/-- What a time-out says. -/
theorem message_timedOut (target : UInt64) (seen : Option UInt64) (elapsed : Duration) :
    (TrialError.timedOut (.fleetReady target seen) elapsed).message =
      "Timed out after " ++ elapsed.shortText ++ " waiting for fleet to reach " ++
        toString target.toNat ++ " ready replicas (last seen " ++ seenText seen ++ ")" := by
  have hmessage : (TrialError.timedOut (.fleetReady target seen) elapsed).message =
      "Timed out after " ++ elapsed.shortText ++ " waiting for " ++
        (Goal.fleetReady target seen).text := rfl
  have htext : (Goal.fleetReady target seen).text =
      "fleet to reach " ++ toString target.toNat ++ " ready replicas (last seen " ++
        seenText seen ++ ")" := by
    cases seen with
    | none => rfl
    | some ready => rfl
  have hwords : " waiting for fleet to reach " = " waiting for " ++ "fleet to reach " := rfl
  rw [hmessage, htext, hwords]
  simp only [String.append_assoc]

/-- A wait without any time has nothing to do. -/
theorem after_of_timeless (hlimit : m.limit = some .zero) (n : Nat) :
    m.after n =
      ⟨.over (.error (.timedOut (.fleetReady m.target none) .zero)), [], 0⟩ := by
  induction n with
  | zero =>
    have hlate : m.IsLate 0 := ⟨.zero, hlimit, Nat.zero_le _⟩
    have hstate : m.start = .over (.error (.timedOut (.fleetReady m.target none) .zero)) := by
      have hnext : m.start = (m.census 0).next (m.course.clock 0) := rfl
      rw [hnext, Census.next, if_pos (expired_census_iff.mpr hlate)]
      simp only [census, lastSeen, Deadline.elapsed, Instant.since, Nat.sub_self]
      rfl
    simp only [after, Passage.after, hstate]
  | succ n ih =>
    rw [after_succ, ih, Passage.step_of_over rfl]

/-- **How the wait for a fleet ends.** It fetches its handle until the first reply that has the
wanted number itself, the first failure, or the first fetch that would be late. -/
theorem wait_ends_at_first_match (m : Muster) : m.IsExact where
  one_handle n := by
    refine ⟨fun request hrequest => ?_, fun request hwait => request_eq hwait⟩
    rw [fetched_eq_replicate] at hrequest
    exact List.eq_of_mem_replicate hrequest
  ends made r := by
    constructor
    · rintro ⟨n, hover, rfl⟩
      exact endsFirstAt_of_over hover
    · rintro ⟨k, hfirst⟩
      exact exists_over_of_endsFirstAt hfirst
  goes_on k hpasses hintime := by
    obtain ⟨n, hstate, hlength⟩ := exists_fetch hpasses hintime
    exact ⟨n, by rw [hstate]; rfl, hlength⟩
  ready made := by
    constructor
    · rintro ⟨n, hover, rfl⟩
      obtain ⟨k, hpasses, hends⟩ := endsFirstAt_of_over hover
      obtain ⟨hmade, hintime, s, hreply, hready⟩ := hends.ready_of_ok
      obtain ⟨status, hstatus, hcount⟩ := readyReplicas?_eq_some_iff.mp hready
      exact ⟨k, s, status, hmade, hpasses, hintime, hreply, hstatus, hcount⟩
    · rintro ⟨k, s, status, rfl, hpasses, hintime, hreply, hstatus, hcount⟩
      have hready := readyReplicas?_eq_some_iff.mpr ⟨status, hstatus, hcount⟩
      exact exists_over_of_endsFirstAt ⟨hpasses, .ready hintime hreply hready⟩
  late k hpasses hlate := by
    exact ⟨exists_over_of_endsFirstAt ⟨hpasses, .timedOut hlate⟩, message_timedOut _ _ _⟩
  remembers k ready := lastSeen_eq_some_iff
  timeless hlimit n := by
    rw [after_of_timeless hlimit n]
    exact ⟨rfl, rfl⟩

end Muster

end FleetTrial
