/-!
# Measured events

An event is one finished measurement: its label, its value, and when it was made. A collector
takes an event as one line of text.
-/

namespace FleetTrial

/-- One finished measurement. -/
structure Event where
  label : String
  /-- Elapsed milliseconds, or the amount of what is counted. -/
  value : UInt64
  size : UInt64
  /-- Seconds since the Unix epoch. -/
  observedAt : Int
  deriving DecidableEq, Repr

namespace Event

/-- The label of the number of replicas that were ready before an allocation. -/
def readyReplicasLabel : String := "ReadyReplicas"

/-- A label as a collector takes it: a dot separates namespaces there, so it becomes a hyphen. -/
def plainLabel (label : String) : String :=
  String.ofList (label.toList.map fun c => if c = '.' then '-' else c)

/-- The line that a collector takes for an event. -/
def line (space : String) (e : Event) : String :=
  space ++ "." ++ plainLabel e.label ++ " " ++ toString e.value.toNat ++ " " ++
    toString e.observedAt ++ "\n"

end Event

end FleetTrial
