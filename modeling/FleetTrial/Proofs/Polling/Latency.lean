import FleetTrial.Proofs.Polling.Outlasting
import Mathlib.Algebra.Order.BigOperators.Group.List
import Mathlib.Algebra.Order.Group.Nat

/-!
# What a measured latency tells

A watch without a deadline ends by the answers that it gets, so how long its fetches take shows in
nothing but the milliseconds that it measures. These are the time from the request for the
allocation to its last look, that is what had passed when the watch began and what its fetches have
taken, and only the sum of it all is rounded down to whole milliseconds.
-/

namespace FleetTrial

namespace Vigil

variable {v : Vigil} {delay delay' : Nat → Duration} {fetched : List Request}

/-- The nanoseconds that so many fetches take. -/
def spent (delay : Nat → Duration) (fetches : Nat) : Nat :=
  ((List.range fetches).map fun k => (delay k).nanos).sum

/-- The same watch without a deadline, each of whose fetches takes the time that it is given. -/
def taking (v : Vigil) (delay : Nat → Duration) : Vigil where
  limit := none
  interval := v.interval
  initial := v.initial
  postedAt := v.postedAt
  course.reply := v.course.reply
  course.clock k := ⟨(v.course.clock 0).nanos + spent delay k⟩

/-- Slower fetches take more time. -/
theorem spent_le_spent (hdelay : ∀ k, delay k ≤ delay' k) (fetches : Nat) :
    spent delay fetches ≤ spent delay' fetches :=
  List.sum_le_sum fun k _ => hdelay k

/-- The time from the request to a look, if it was made before the watch began. -/
theorem elapsed_taking (hposted : v.postedAt.nanos ≤ (v.course.clock 0).nanos)
    (delay : Nat → Duration) (k : Nat) :
    (v.taking delay).elapsed k = v.elapsed 0 + spent delay k :=
  Nat.sub_add_comm hposted

/-- Without a deadline a watch outlasts itself, however long its fetches take. -/
theorem outlasts_taking (v : Vigil) (delay delay' : Nat → Duration) :
    (v.taking delay').Outlasts (v.taking delay) where
  initial_eq := rfl
  reply_eq := rfl
  late k hlate := by
    obtain ⟨limit, hlimit, _⟩ := hlate
    cases hlimit

/-- Without a deadline a watch decides. -/
theorem isDecided_of_taking {r : Except TrialError Measurement}
    (hyields : (v.taking delay).Yields fetched r) : IsDecided r := by
  rintro m rfl
  obtain ⟨_, k, hends, _⟩ := yields_iff.mp hyields
  obtain ⟨-, -, -, ⟨-, hlimit⟩ | ⟨hdecided, -⟩⟩ := hends.measured
  · exact absurd rfl hlimit
  · exact hdecided

/-- However long the fetches take, a watch without a deadline ends behind the same ones, and
measures the same but for the milliseconds. -/
theorem yields_taking {m : Measurement} (hyields : (v.taking delay).Yields fetched (.ok m))
    (delay' : Nat → Duration) :
    (v.taking delay').Yields fetched
      (.ok { m with millis := (v.taking delay').millis m.fetches }) :=
  (v.outlasts_taking delay delay').yields hyields (isDecided_of_taking hyields)

/-- What a watch without a deadline measures. It ends with a measurement whether its fetches are
fast or slow, and both measure the same outcome behind the same fetches, the slow ones no fewer
milliseconds. The milliseconds are the whole ones in the time from the request to the last look, at
most the largest word; from a request that was made before, these are the time that had passed when
the watch began and the times of all its fetches, rounded down together. -/
theorem latency_tells_delays (v : Vigil) (fast slow : Nat → Duration)
    (hdelay : ∀ k, fast k ≤ slow k) :
    ((∃ fetched m, (v.taking fast).Yields fetched (.ok m)) ↔
      ∃ fetched m, (v.taking slow).Yields fetched (.ok m)) ∧
    (∀ fetched m fetched' m', (v.taking fast).Yields fetched (.ok m) →
      (v.taking slow).Yields fetched' (.ok m') →
      fetched = fetched' ∧ m.outcome = m'.outcome ∧ m.fetches = m'.fetches ∧
        m.millis ≤ m'.millis) ∧
    ∀ delay fetched m, (v.taking delay).Yields fetched (.ok m) →
      fetched.length = m.fetches ∧
      m.millis.toNat = min (((v.course.clock 0).nanos + spent delay m.fetches -
        v.postedAt.nanos) / 1000000) Text.maxWord64 ∧
      (v.postedAt.nanos ≤ (v.course.clock 0).nanos →
        m.millis.toNat = min ((v.elapsed 0 + spent delay m.fetches) / 1000000)
          Text.maxWord64) := by
  refine ⟨⟨?_, ?_⟩, fun fetched m fetched' m' hfast hslow => ?_, fun delay fetched m hyields => ?_⟩
  · rintro ⟨fetched, m, hyields⟩
    exact ⟨fetched, _, yields_taking hyields slow⟩
  · rintro ⟨fetched, m, hyields⟩
    exact ⟨fetched, _, yields_taking hyields fast⟩
  · obtain ⟨rfl, hresult⟩ := hslow.unique (yields_taking hfast slow)
    cases hresult
    refine ⟨rfl, rfl, rfl, ?_⟩
    rw [hfast.measured.2]
    exact millis_le_of_elapsed_le
      (Nat.sub_le_sub_right (Nat.add_le_add_left (spent_le_spent hdelay _) _) _)
  · obtain ⟨hlength, hmillis⟩ := hyields.measured
    have hcount := hmillis ▸ (v.taking delay).toNat_millis m.fetches
    exact ⟨hlength, hcount, fun hposted => elapsed_taking hposted delay m.fetches ▸ hcount⟩

/-- The watch of an allocation that was requested 900 microseconds before and is decided with its
third fetch. -/
def belated : Vigil :=
  { settling none with postedAt := ⟨100000⟩, course.clock := fun _ => ⟨1000000⟩ }

/-- Three fetches of 400 microseconds make up for two milliseconds together with the time before
them, and three of 700 microseconds for three, although none of them fills a millisecond. -/
theorem latency_tells_delays_of_belated :
    ∃ fetched m m', (belated.taking fun _ => ⟨400000⟩).Yields fetched (.ok m) ∧
      (belated.taking fun _ => ⟨700000⟩).Yields fetched (.ok m') ∧
      m.outcome = m'.outcome ∧ m.fetches = 3 ∧ m'.fetches = 3 ∧ m.millis ≤ m'.millis ∧
      m.millis.toNat = 2 ∧ m'.millis.toNat = 3 := by
  obtain ⟨-, hboth, hexact⟩ := latency_tells_delays belated (fun _ => ⟨400000⟩)
    (fun _ => ⟨700000⟩) fun _ => show 400000 ≤ 700000 by omega
  have hfast : (belated.taking fun _ => ⟨400000⟩).Yields [.fetch "/a", .fetch "/a", .fetch "/a"]
      (.ok ⟨.allocated, 2, 3⟩) := ⟨3, rfl, rfl⟩
  have hslow : (belated.taking fun _ => ⟨700000⟩).Yields [.fetch "/a", .fetch "/a", .fetch "/a"]
      (.ok ⟨.allocated, 3, 3⟩) := ⟨3, rfl, rfl⟩
  have hposted : belated.postedAt.nanos ≤ (belated.course.clock 0).nanos :=
    show 100000 ≤ 1000000 by omega
  obtain ⟨-, houtcome, -, hle⟩ := hboth _ _ _ _ hfast hslow
  obtain ⟨-, -, hmillis⟩ := hexact _ _ _ hfast
  obtain ⟨-, -, hmillis'⟩ := hexact _ _ _ hslow
  refine ⟨_, _, _, hfast, hslow, houtcome, rfl, rfl, hle, ?_, ?_⟩
  · rw [hmillis hposted]
    decide
  · rw [hmillis' hposted]
    decide

end Vigil

end FleetTrial
