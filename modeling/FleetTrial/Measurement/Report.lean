import FleetTrial.Allocation.Outcome
import FleetTrial.Decimal.Fixed
import FleetTrial.Measurement.Tally
import FleetTrial.Settings.Budget
import FleetTrial.Text.Row

/-!
# The report of a trial

What a trial prints when its users are done: the settings it ran with, how many attempts were
made and how they ended, and a table with one row per label. Every amount with a fraction has two
decimal places.
-/

namespace FleetTrial.Report

/-- A double with two decimal places. -/
def amount (x : Float) : String := Decimal.fixed 2 x

/-- The line between the parts of a report. -/
def rule : String := String.ofList (List.replicate 63 '═')

/-- The rows about the attempts and the users. -/
def overallRows (duration : Option Duration) (t : Tally) : Except Crash (List String) := do
  let attempts ← t.attempts
  let rate ← t.successRate
  return (match duration with
    | none => []
    | some d => [Text.row "Test Duration" (amount d.toSeconds ++ "s")]) ++
    [Text.row "Attempts" (toString attempts.toNat),
     Text.row "Completed" (toString t.completed.toNat),
     Text.row "Failed" (toString t.failed.toNat),
     Text.row "Success Rate" (amount rate ++ "%")] ++
    if 0 < t.usersFailed then [Text.row "Users Failed" (toString t.usersFailed.toNat)] else []

/-- Allocations per second of a trial that took some time. -/
def allocationRate (allocated : Nat) (d : Duration) : Float :=
  if 0 < d.toSeconds then (UInt64.ofNat allocated).toFloat / d.toSeconds else 0

/-- The rows about the outcomes. -/
def outcomeRows (duration : Option Duration) (t : Tally) : List String :=
  let count (outcome : Outcome) : Nat := t.countOf outcome.label
  ["", "🎮 Allocation Outcomes:",
   Text.row "Allocated" (toString (count .allocated)),
   Text.row "UnAllocated" (toString (count .unallocated))] ++
  (if 0 < count .timedOut then [Text.row "Timed Out" (toString (count .timedOut))] else []) ++
  match duration with
  | none => []
  | some d => [Text.row "Allocations/sec" (amount (allocationRate (count .allocated) d))]

/-- One line of the table of labels. -/
def tableLine (label count mean least greatest : String) : String :=
  "   " ++ Text.padRight 32 label ++ " " ++ Text.padLeft 8 count ++ " " ++ mean ++ " " ++ least ++
    " " ++ greatest

/-- A number with its unit, in columns of their own. -/
def measure (width : Nat) (number unit : String) : String :=
  Text.padLeft width number ++ Text.padRight 2 unit

/-- The line of a label; replicas are counted, all else is measured in milliseconds. -/
def labelLine (l : LabelTally) : String :=
  let unit := if l.label = Event.readyReplicasLabel then "" else "ms"
  tableLine l.label (toString l.count) (measure 8 (amount l.mean) unit)
    (measure 6 (toString (l.least.getD 0).toNat) unit)
    (measure 6 (toString (l.greatest.getD 0).toNat) unit)

/-- The table of labels, left out if there are none. -/
def table (labels : List LabelTally) : List String :=
  if labels.isEmpty then []
  else
    ["", "⏱️  Measurements:",
     tableLine "Label" "Count" (Text.padLeft 10 "Mean") (Text.padLeft 8 "Min")
       (Text.padLeft 8 "Max")] ++
    labels.map labelLine

/-- A report under a block of text about the settings. -/
def text (settings : String) (duration : Option Duration) (t : Tally) : Except Crash String :=
  (overallRows duration t).map fun overall =>
    Text.unlines ["", "📊 Fleet Allocation Load Test Results", rule, "", "🔧 Configuration:"] ++
      settings ++
      Text.unlines (["📈 Overall Results:"] ++ overall ++ outcomeRows duration t ++
        table t.labels ++ ["", "🎯 Test completed!", rule])

/-- The block about what ended the work, empty if it was not one thing alone. -/
def extentBlock (s : Settings) : Except Crash String :=
  match s.extent.duration, s.extent.attempts with
  | some duration, none => .ok ("   Duration:         " ++ toString duration.secs ++ "s\n")
  | none, some attempts =>
    s.attemptsPerUser.map fun perUser =>
      "   Iterations:       " ++ toString attempts ++ "\n   Per User:         " ++
        perUser.getD "" ++ " allocations\n"
  | _, _ => .ok ""

/-- The block about the settings of a trial. -/
def settingsBlock (s : Settings) : Except Crash String :=
  (extentBlock s).map fun extent =>
    "   Control Plane:    " ++ s.target.url ++
    "\n   Fleet:            " ++ s.fleet.space ++ "/" ++ s.fleet.name ++ " (" ++
      toString s.fleet.replicas ++ " replicas)" ++
    "\n   Users:            " ++ toString s.crowd.users ++ "\n" ++
    extent ++
    "   Think Time:       " ++ toString s.crowd.minWait.millis ++ "ms - " ++
      toString s.crowd.maxWait.millis ++ "ms\n"

/-- The report of a trial that ran with the given settings. -/
def ofTrial (s : Settings) (duration : Duration) (t : Tally) : Except Crash String :=
  match settingsBlock s with
  | .error crash => .error crash
  | .ok block => text block (some duration) t

end FleetTrial.Report
