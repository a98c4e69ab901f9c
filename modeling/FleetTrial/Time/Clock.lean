import FleetTrial.Crash
import FleetTrial.Time.Duration

/-!
# Clocks

An instant is a distance from a clock's origin. A manual clock moves only when it is told to, and
its Unix time is that of its origin plus the whole seconds it has moved.
-/

namespace FleetTrial

/-- A point in time, as the nanoseconds since the origin of its clock. -/
structure Instant where
  nanos : Nat
  deriving DecidableEq, Repr

namespace Instant

/-- The span from an earlier instant; it is empty if that instant is not earlier. -/
def since (later earlier : Instant) : Duration := ⟨later.nanos - earlier.nanos⟩

end Instant

/-- What a clock shows when it is read twice in a row. -/
structure Readings where
  first : Instant
  second : Instant
  deriving DecidableEq, Repr

/-- A clock that stands still between two readings. -/
instance : Coe Instant Readings := ⟨fun now => ⟨now, now⟩⟩

/-- A clock that moves only when it is told to. -/
structure ManualClock where
  /-- The Unix time of the origin. -/
  origin : Int
  /-- How far the clock has moved. -/
  offset : Duration
  deriving DecidableEq, Repr

namespace ManualClock

/-- A clock that has not moved. -/
def start (origin : Int) : ManualClock := ⟨origin, .zero⟩

/-- Moves a clock forward. -/
def advance (step : Duration) (c : ManualClock) : ManualClock :=
  { c with offset := c.offset + step }

/-- The instant that a clock shows. -/
def now (c : ManualClock) : Instant := ⟨c.offset.nanos⟩

/-- The Unix time that a clock shows, in whole seconds; it may outgrow its word. -/
def unix (c : ManualClock) : Except Crash Int :=
  if c.origin + c.offset.secs ≤ Int64.maxValue.toInt then .ok (c.origin + c.offset.secs)
  else .error .timeOverflow

end ManualClock

end FleetTrial
