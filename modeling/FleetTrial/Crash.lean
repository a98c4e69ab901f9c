/-!
# Crashes

A few computations have no answer for some settings: a budget shared among no users, a counter
that outgrows its word, a think time drawn from an empty range. Such a computation crashes, which
ends whatever ran it at once and is no error that anything can handle. A clock whose Unix time
has outgrown its word crashes whatever reads that time, and from then on whatever uses the clock.
-/

namespace FleetTrial

/-- Why a computation was cut off. -/
inductive Crash
  | divisionByZero
  | overflow
  | emptyRange
  | timeOverflow
  deriving DecidableEq, Repr

end FleetTrial
