import FleetTrial.Time.Deadline
import Mathlib.Algebra.GroupWithZero.Nat

/-!
# Deadlines while a clock runs

A clock runs by being advanced step by step, so it shows the sum of its steps and never goes back.
Nor does the time since an instant, which is empty as long as the clock is behind that instant, and
a deadline that has passed stays so. The whole milliseconds of that time are rounded down and stop
at the largest word. Still a limit of whole milliseconds that fit a word is reached exactly when as
many whole milliseconds are counted, because rounding down crosses no whole number.
-/

namespace FleetTrial

namespace Duration

variable {a b : Duration} {ms : Nat}

/-- The milliseconds that a measurement carries. -/
theorem toNat_wholeMillis (d : Duration) :
    d.wholeMillis.toNat = min (d.nanos / 1000000) Text.maxWord64 :=
  Text.toNat_word (Nat.min_le_right _ _)

/-- A longer span has no fewer milliseconds. -/
theorem wholeMillis_le_wholeMillis (hle : a ≤ b) : a.wholeMillis ≤ b.wholeMillis := by
  rw [UInt64.le_iff_toNat_le, toNat_wholeMillis, toNat_wholeMillis]
  have hmillis : a.nanos / 1000000 ≤ b.nanos / 1000000 := Nat.div_le_div_right hle
  omega

/-- A span reaches some whole milliseconds that fit a word exactly if it counts as many. -/
theorem ofMillis_le_iff (hms : ms ≤ Text.maxWord64) (d : Duration) :
    ofMillis ms ≤ d ↔ ms ≤ d.wholeMillis.toNat := by
  have hfloor : ofMillis ms ≤ d ↔ ms ≤ d.nanos / 1000000 :=
    (Nat.le_div_iff_mul_le (by decide)).symm
  rw [hfloor, toNat_wholeMillis, Nat.le_min, and_iff_left hms]

end Duration

namespace ManualClock

/-- A clock that has been advanced by each of some steps. -/
def run (c : ManualClock) (steps : List Duration) : ManualClock :=
  steps.foldl (fun c step => c.advance step) c

theorem run_append (c : ManualClock) (steps more : List Duration) :
    c.run (steps ++ more) = (c.run steps).run more := List.foldl_append

/-- A step adds its nanoseconds to what a clock shows. -/
theorem nanos_now_advance (step : Duration) (c : ManualClock) :
    (c.advance step).now.nanos = c.now.nanos + step.nanos := rfl

/-- A clock that has run shows the sum of its steps. -/
theorem nanos_now_run (c : ManualClock) (steps : List Duration) :
    (c.run steps).now.nanos = c.now.nanos + (steps.map Duration.nanos).sum := by
  induction steps generalizing c with
  | nil => rfl
  | cons step steps ih =>
    have hnext : (c.run (step :: steps)).now.nanos = ((c.advance step).run steps).now.nanos := rfl
    rw [hnext, ih, nanos_now_advance, List.map_cons, List.sum_cons, Nat.add_assoc]

end ManualClock

namespace Deadline

variable {d : Deadline} {c : ManualClock} {now : Instant} {steps earlier later : List Duration}
  {ms : Nat}

/-- A deadline has passed exactly if it has a limit and the time since its start has reached it. -/
theorem expired_iff :
    d.expired now = true ↔ ∃ limit, d.limit = some limit ∧ limit ≤ d.elapsed now := by
  rw [expired, Option.any_eq_true]
  exact exists_congr fun limit => and_congr_right fun _ => decide_eq_true_iff

/-- A limit of whole milliseconds has passed exactly if as many are counted. -/
theorem expired_iff_le_wholeMillis (hms : ms ≤ Text.maxWord64)
    (hlimit : d.limit = some (.ofMillis ms)) :
    d.expired now = true ↔ ms ≤ (d.elapsed now).wholeMillis.toNat := by
  rw [expired_iff, hlimit]
  simp only [Option.some.injEq, exists_eq_left', Duration.ofMillis_le_iff hms]

/-- The time since a start is what the clock shows beyond it, if anything. -/
theorem nanos_elapsed (d : Deadline) (now : Instant) :
    ((d.elapsed now).nanos : Int) = max 0 ((now.nanos : Int) - d.start.nanos) := by
  have hsub : (d.elapsed now).nanos = now.nanos - d.start.nanos := rfl
  omega

/-- The time since the start of a deadline when a clock has run by some steps. -/
def elapsedAfter (d : Deadline) (c : ManualClock) (steps : List Duration) : Duration :=
  d.elapsed (c.run steps).now

/-- Whether a deadline has passed when a clock has run by some steps. -/
def expiredAfter (d : Deadline) (c : ManualClock) (steps : List Duration) : Bool :=
  d.expired (c.run steps).now

/-- A step of the clock makes the time since a start no shorter. -/
theorem elapsed_le_advance (d : Deadline) (c : ManualClock) (step : Duration) :
    d.elapsed c.now ≤ d.elapsed (c.advance step).now := by
  have hnanos := c.nanos_now_advance step
  exact Nat.sub_le_sub_right (hnanos ▸ Nat.le_add_right _ _) _

/-- Nor does a run of the clock make it shorter. -/
theorem elapsed_le_run (d : Deadline) (c : ManualClock) (steps : List Duration) :
    d.elapsed c.now ≤ d.elapsed (c.run steps).now := by
  induction steps generalizing c with
  | nil => exact Nat.le_refl _
  | cons step steps ih => exact Nat.le_trans (d.elapsed_le_advance c step) (ih (c.advance step))

/-- The time since a start never shrinks along a run. -/
theorem elapsedAfter_le (d : Deadline) (c : ManualClock) (hbegins : earlier <+: later) :
    d.elapsedAfter c earlier ≤ d.elapsedAfter c later := by
  obtain ⟨more, rfl⟩ := hbegins
  rw [elapsedAfter, elapsedAfter, ManualClock.run_append]
  exact d.elapsed_le_run _ more

/-- A deadline that has passed along a run stays so. -/
theorem expiredAfter_of_isPrefix (hbegins : earlier <+: later)
    (hexpired : d.expiredAfter c earlier = true) : d.expiredAfter c later = true := by
  obtain ⟨limit, hlimit, hpassed⟩ := expired_iff.mp hexpired
  exact expired_iff.mpr ⟨limit, hlimit, Nat.le_trans hpassed (d.elapsedAfter_le c hbegins)⟩

/-- Whether a deadline keeps time with every run of a clock: what it tells follows from the sum of
the steps, nothing of it is ever taken back, and its milliseconds tell whether it has passed. -/
structure KeepsTime (d : Deadline) (c : ManualClock) : Prop where
  elapsed : ∀ steps, ((d.elapsedAfter c steps).nanos : Int) =
    max 0 ((c.now.nanos : Int) + (steps.map Duration.nanos).sum - d.start.nanos)
  elapsed_le : ∀ earlier later, earlier <+: later →
    d.elapsedAfter c earlier ≤ d.elapsedAfter c later
  expired : ∀ steps, d.expiredAfter c steps = true ↔
    ∃ limit, d.limit = some limit ∧ limit ≤ d.elapsedAfter c steps
  stays_expired : ∀ earlier later, earlier <+: later → d.expiredAfter c earlier = true →
    d.expiredAfter c later = true
  unlimited : d.limit = none → ∀ steps, d.expiredAfter c steps = false
  millis : ∀ steps, (d.elapsedAfter c steps).wholeMillis.toNat =
    min ((d.elapsedAfter c steps).nanos / 1000000) (2 ^ 64 - 1)
  millis_le : ∀ earlier later, earlier <+: later →
    (d.elapsedAfter c earlier).wholeMillis ≤ (d.elapsedAfter c later).wholeMillis
  expired_in_millis : ∀ ms, ms < 2 ^ 64 → d.limit = some (.ofMillis ms) → ∀ steps,
    (d.expiredAfter c steps = true ↔ ms ≤ (d.elapsedAfter c steps).wholeMillis.toNat)

/-- Every deadline keeps time with every clock, wherever it starts. -/
theorem keepsTime (d : Deadline) (c : ManualClock) : d.KeepsTime c where
  elapsed steps := by
    rw [elapsedAfter, nanos_elapsed, ManualClock.nanos_now_run, Int.natCast_add]
  elapsed_le _ _ := d.elapsedAfter_le c
  expired _ := expired_iff
  stays_expired _ _ := expiredAfter_of_isPrefix
  unlimited hlimit steps := by rw [expiredAfter, Deadline.expired, hlimit, Option.any_none]
  millis steps := Duration.toNat_wholeMillis _
  millis_le _ _ hbegins := Duration.wholeMillis_le_wholeMillis (d.elapsedAfter_le c hbegins)
  expired_in_millis _ hms hlimit _ := expired_iff_le_wholeMillis (Nat.le_pred_of_lt hms) hlimit

/-- A limit of a hundred milliseconds from an instant that is still one millisecond ahead is missed
by the clock's first hundred and then reached. -/
example :
    (Deadline.mk ⟨1000000⟩ (some (.ofMillis 100))).expiredAfter (.start 0) [.ofMillis 100] = false ∧
      (Deadline.mk ⟨1000000⟩ (some (.ofMillis 100))).expiredAfter (.start 0)
        [.ofMillis 100, .ofMillis 1] = true := by
  decide

end Deadline

end FleetTrial
