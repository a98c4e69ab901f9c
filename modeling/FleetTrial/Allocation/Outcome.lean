/-!
# Outcomes of an allocation

An allocation ends allocated or unallocated, which the control plane says, or it times out, which
the poller says. Any other state means that the control plane is not done yet.
-/

namespace FleetTrial

/-- How an allocation ended. -/
inductive Outcome
  | allocated
  | unallocated
  | timedOut
  deriving DecidableEq, Repr

namespace Outcome

/-- The outcome that a state stands for; none if the allocation goes on. -/
def ofState? (state : String) : Option Outcome :=
  if state = "Allocated" then some .allocated
  else if state = "UnAllocated" then some .unallocated
  else none

/-- The label of the event that measures an outcome. -/
def label : Outcome → String
  | .allocated => "GameServerAllocated"
  | .unallocated => "GameServerUnAllocated"
  | .timedOut => "GameServerAllocationTimedOut"

/-- The name of an outcome. -/
def name : Outcome → String
  | .allocated => "Allocated"
  | .unallocated => "UnAllocated"
  | .timedOut => "TimedOut"

end Outcome

end FleetTrial
