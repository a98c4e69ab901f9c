import FleetTrial.Settings.Budget
import FleetTrial.Text.Row

/-!
# The summary of the settings

What a trial prints before it starts. What ends the trial is shown only if it is one thing: a
duration or a number of attempts, not both.
-/

namespace FleetTrial

namespace Extent

/-- The rows about what ends the work. -/
def rows (users : Nat) : Extent → Except Crash (List String)
  | ⟨some duration, none⟩ => .ok [Text.row "Duration" (toString duration.secs ++ "s")]
  | ⟨none, some attempts⟩ =>
    (shareText attempts users).map fun perUser =>
      [Text.row "Iterations" (toString attempts),
       Text.row "Per User" (perUser ++ " allocations")]
  | _ => .ok []

end Extent

/-- A span in whole milliseconds, or `none`. -/
def millisOrNone : Option Duration → String
  | none => "none"
  | some d => toString d.millis ++ "ms"

namespace Settings

/-- The rows about the control plane, the fleet and the number of users. -/
def targetRows (s : Settings) : List String :=
  [Text.row "Control Plane" s.target.url,
   Text.row "Fleet" (s.fleet.space ++ "/" ++ s.fleet.name ++ " (" ++
     toString s.fleet.replicas ++ " replicas)"),
   Text.row "Users" (toString s.crowd.users)]

/-- The row about the think time. -/
def thinkTimeRow (s : Settings) : String :=
  Text.row "Think Time"
    (toString s.crowd.minWait.millis ++ "ms - " ++ toString s.crowd.maxWait.millis ++ "ms")

/-- The row about the collector. -/
def metricsRow (s : Settings) : String :=
  Text.row "Metrics"
    (match s.metrics.collector with
      | none => "forwarding disabled"
      | some address => address ++ " (namespace '" ++ s.metrics.space ++ "')")

/-- The rows that only some settings have. -/
def extraRows (s : Settings) : List String :=
  (if s.fleet.setup then [] else [Text.row "Fleet Setup" "skipped"]) ++
    (if s.target.headers.isEmpty then []
      else [Text.row "Custom Headers" (toString s.target.headers.length)]) ++
    if s.target.insecure then [Text.row "Security" "⚠️  Insecure mode enabled"] else []

/-- The summary of the settings, with an empty line at its end. -/
def summary (s : Settings) : Except Crash String :=
  (s.extent.rows s.crowd.users).map fun extent =>
    Text.unlines (["🎮 Fleet Allocation Load Test Configuration:"] ++ s.targetRows ++ extent ++
      [s.thinkTimeRow,
       Text.row "Alloc Deadline" (millisOrNone s.polling.allocationDeadline),
       s.metricsRow] ++
      s.extraRows ++ [""])

end Settings

end FleetTrial
