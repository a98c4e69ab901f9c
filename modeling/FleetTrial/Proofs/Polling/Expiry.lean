import FleetTrial.Proofs.Polling.Outlasting
import FleetTrial.Proofs.Settings.Soundness

/-!
# What a measurement tells of its deadline

A measurement tells its time in whole milliseconds, and every deadline that a command line can give
is a whole number of them that fits a word. So a measurement tells whether the deadline had passed
when it was made: a time-out never shows fewer milliseconds than the deadline, and whatever was
decided in time always shows fewer.
-/

namespace FleetTrial

namespace Vigil

variable {v : Vigil} {k made ms : Nat} {fetched : List Request} {m : Measurement}

/-- The deadline of a watch, which runs from the request for the allocation. -/
def deadline (v : Vigil) : Deadline := ⟨v.postedAt, v.limit⟩

/-- A watch that times out at a look is late there. -/
theorem EndsAt.isLate_of_timedOut (hends : v.EndsAt k made (.ok m))
    (htimedOut : m.outcome = .timedOut) : v.IsLate k := by
  cases hends with
  | allocated => cases htimedOut
  | unallocated => cases htimedOut
  | timedOut _ _ _ hlate => exact hlate

/-- A watch that has timed out was late when it ended. -/
theorem Yields.expired_of_timedOut (hyields : v.Yields fetched (.ok m))
    (htimedOut : m.outcome = .timedOut) :
    v.deadline.expired (v.course.clock m.fetches) = true := by
  obtain ⟨_, k, hends, _⟩ := yields_iff.mp hyields
  obtain ⟨-, hfetches, -⟩ := hends.measured
  exact Deadline.expired_iff.mpr (hfetches ▸ hends.isLate_of_timedOut htimedOut)

/-- The milliseconds of a measurement tell whether its deadline had passed. -/
theorem Yields.expired_iff (hyields : v.Yields fetched (.ok m)) (hms : ms ≤ Text.maxWord64)
    (hlimit : v.limit = some (.ofMillis ms)) :
    v.deadline.expired (v.course.clock m.fetches) = true ↔ ms ≤ m.millis.toNat := by
  have hmillis : m.millis = (v.deadline.elapsed (v.course.clock m.fetches)).wholeMillis :=
    hyields.measured.2
  rw [hmillis]
  exact Deadline.expired_iff_le_wholeMillis hms hlimit

/-- Whether all that a watch measures tells if a deadline of so many milliseconds had passed. -/
structure TellsExpiry (v : Vigil) (ms : Nat) : Prop where
  timed_out : ∀ fetched m, v.Yields fetched (.ok m) → m.outcome = .timedOut → ms ≤ m.millis.toNat
  expired : ∀ fetched m, v.Yields fetched (.ok m) →
    v.deadline.expired (v.course.clock m.fetches) = true → ms ≤ m.millis.toNat
  in_time : ∀ fetched m, v.Yields fetched (.ok m) →
    v.deadline.expired (v.course.clock m.fetches) = false → m.millis.toNat < ms

/-- A watch with a deadline of whole milliseconds that fit a word tells if it had passed. -/
theorem tellsExpiry (hms : ms ≤ Text.maxWord64) (hlimit : v.limit = some (.ofMillis ms)) :
    v.TellsExpiry ms where
  timed_out _ _ hyields htimedOut :=
    (hyields.expired_iff hms hlimit).mp (hyields.expired_of_timedOut htimedOut)
  expired _ _ hyields := (hyields.expired_iff hms hlimit).mp
  in_time _ _ hyields hintime := Nat.lt_of_not_le fun hle =>
    Bool.false_ne_true (hintime.symm.trans ((hyields.expired_iff hms hlimit).mpr hle))

end Vigil

namespace Deadline

/-- **Deadlines and the milliseconds of measurements.** Every deadline keeps time with every run of
a clock, whichever of them starts later. A watch with a deadline of whole milliseconds below 2^64
tells by its own milliseconds whether the deadline had passed, and a command line gives no other
deadlines. -/
theorem expiry_shows_in_millis :
    (∀ (d : Deadline) (c : ManualClock), d.KeepsTime c) ∧
    (∀ ms, ms < 2 ^ 64 → ∀ v : Vigil, v.limit = some (.ofMillis ms) → v.TellsExpiry ms) ∧
    ∀ (given : Arguments) host s, given.toSettings host = .ok s →
      ∀ limit, s.polling.allocationDeadline = some limit ∨
        s.polling.scaleDeadline = some limit → ∃ ms, ms < 2 ^ 64 ∧ limit = .ofMillis ms := by
  refine ⟨keepsTime, fun ms hms v hlimit => Vigil.tellsExpiry (Nat.le_pred_of_lt hms) hlimit,
    fun given host s hread limit hlimit => ?_⟩
  have hreads := Arguments.readsAs_of_toSettings hread
  have hgiven : ∃ text, Arguments.readLimit text = .ok (some limit) := by
    rcases hlimit with hallocation | hscale
    · exact ⟨_, hallocation ▸ hreads.allocationDeadline⟩
    · exact ⟨_, hscale ▸ hreads.scaleDeadline⟩
  obtain ⟨text, htext⟩ := hgiven
  obtain ⟨ms, hms, hlimit⟩ := Arguments.exists_ofMillis_of_readLimit htext
  exact ⟨ms, Nat.lt_succ_of_le hms, hlimit⟩

/-- A command line that gives each allocation three milliseconds. -/
def hastyArguments : Arguments := { Arguments.nothing with allocationDeadline := some "3ms" }

/-- Three milliseconds off a command line are passed by the second fetch of an allocation, and the
time-out shows four. -/
theorem expiry_shows_in_millis_of_settling :
    ∃ s, hastyArguments.toSettings "http://localhost" = .ok s ∧
      (∃ ms, ms < 2 ^ 64 ∧ s.polling.allocationDeadline = some (.ofMillis ms)) ∧
      (Vigil.settling s.polling.allocationDeadline).Yields [.fetch "/a", .fetch "/a"]
        (.ok ⟨.timedOut, 4, 2⟩) ∧
      3 ≤ (4 : UInt64).toNat := by
  obtain ⟨-, hwatch, hline⟩ := expiry_shows_in_millis
  have hgiven : ∃ s, hastyArguments.toSettings "http://localhost" = .ok s ∧
      s.polling.allocationDeadline = some (.ofMillis 3) := ⟨_, rfl, rfl⟩
  obtain ⟨s, hread, hlimit⟩ := hgiven
  obtain ⟨ms, hms, hmillis⟩ := hline _ _ s hread _ (.inl hlimit)
  have hyields : (Vigil.settling (some (.ofMillis 3))).Yields [.fetch "/a", .fetch "/a"]
      (.ok ⟨.timedOut, 4, 2⟩) := ⟨2, rfl, rfl⟩
  exact ⟨s, hread, ⟨ms, hms, hlimit.trans (congrArg some hmillis)⟩, hlimit ▸ hyields,
    (hwatch 3 (by decide) _ rfl).timed_out _ _ hyields rfl⟩

end Deadline

end FleetTrial
