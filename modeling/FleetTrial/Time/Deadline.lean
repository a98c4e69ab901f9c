import FleetTrial.Time.Clock

/-!
# Deadlines

A deadline is anchored at the instant a wait began. It has passed once the elapsed time has
reached its limit; without a limit it never passes.
-/

namespace FleetTrial

/-- A limit on the time since an instant. -/
structure Deadline where
  start : Instant
  limit : Option Duration
  deriving DecidableEq, Repr

namespace Deadline

/-- The time since the start of a deadline. -/
def elapsed (d : Deadline) (now : Instant) : Duration := now.since d.start

/-- Whether a deadline has passed. -/
def expired (d : Deadline) (now : Instant) : Bool :=
  d.limit.any fun limit => limit ≤ d.elapsed now

end Deadline

end FleetTrial
