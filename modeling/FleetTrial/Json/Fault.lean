/-!
# Faults of a JSON text

A text is refused because it ended too early, because it is not JSON, or because it is JSON of
the wrong shape. The first fault met from the left decides.
-/

namespace FleetTrial.Json

/-- Why a JSON text is refused. -/
inductive Fault
  /-- The text ended before the value did. -/
  | truncated
  /-- The text is not JSON. -/
  | malformed
  /-- A value has the wrong type, or a member stands twice. -/
  | mismatched
  deriving DecidableEq, Repr

/-- The wording of a JSON fault. -/
def Fault.message : Fault → String
  | .truncated => "the text ends too early"
  | .malformed => "the text is not JSON"
  | .mismatched => "the value has the wrong shape"

end FleetTrial.Json
