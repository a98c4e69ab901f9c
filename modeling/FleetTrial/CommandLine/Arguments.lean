import FleetTrial.Settings.Basic
import FleetTrial.Settings.Fault
import FleetTrial.Time.Written

/-!
# Arguments

What a command line gave, each option being absent until it stands on the line, and the settings
that come of it. Durations are read here and not on the line, in a fixed order, so that a line
with two bad durations is refused for the first of that order.
-/

namespace FleetTrial

/-- What a command line gave. -/
structure Arguments where
  host : Option String
  users : Option Nat
  duration : Option String
  attempts : Option Nat
  fleetName : Option String
  fleetSize : Option Nat
  space : Option String
  image : Option String
  containerPort : Option Nat
  skipFleetSetup : Bool
  deleteFleet : Bool
  minWait : Option String
  maxWait : Option String
  allocationDeadline : Option String
  scaleDeadline : Option String
  pollInterval : Option String
  timeout : Option Nat
  metricsAddress : Option String
  metricsSpace : Option String
  noForward : Bool
  headers : List String
  insecure : Bool
  verbose : Bool
  deriving DecidableEq, Repr

namespace Arguments

/-- A command line that gave nothing. -/
def nothing : Arguments where
  host := none
  users := none
  duration := none
  attempts := none
  fleetName := none
  fleetSize := none
  space := none
  image := none
  containerPort := none
  skipFleetSetup := false
  deleteFleet := false
  minWait := none
  maxWait := none
  allocationDeadline := none
  scaleDeadline := none
  pollInterval := none
  timeout := none
  metricsAddress := none
  metricsSpace := none
  noForward := false
  headers := []
  insecure := false
  verbose := false

/-- Reads a duration off the command line. -/
def readDuration (text : String) : Except SettingsFault Duration :=
  (Duration.parse text.toList).mapError .duration

/-- Reads a deadline off the command line. -/
def readLimit (text : String) : Except SettingsFault (Option Duration) :=
  (Duration.parseLimit text.toList).mapError .duration

/-- Reads a duration that may be absent. -/
def readOptional : Option String → Except SettingsFault (Option Duration)
  | none => .ok none
  | some text => (readDuration text).map some

/-- The settings that a command line asks for, `host` being the URL that it gave. -/
def toSettings (a : Arguments) (host : String) : Except SettingsFault Settings := do
  let duration ← readOptional a.duration
  let allocationDeadline ← readLimit (a.allocationDeadline.getD "60s")
  let scaleDeadline ← readLimit (a.scaleDeadline.getD "10m")
  let minWait ← readDuration (a.minWait.getD "500ms")
  let maxWait ← readDuration (a.maxWait.getD "900ms")
  let interval ← readDuration (a.pollInterval.getD "0ms")
  return {
    target := {
      url := host
      insecure := a.insecure
      headers := a.headers
      timeout := .ofSecs (a.timeout.getD 30)
    }
    fleet := {
      name := a.fleetName.getD "scale-test-fleet"
      replicas := a.fleetSize.getD 100
      space := a.space.getD "default"
      image := a.image.getD "gcr.io/agones-images/udp-server:0.5"
      containerPort := a.containerPort.getD 26000
      setup := !a.skipFleetSetup
      deleteOnExit := a.deleteFleet
    }
    crowd := { users := a.users.getD 10, minWait, maxWait }
    extent := { duration, attempts := a.attempts }
    polling := { allocationDeadline, scaleDeadline, interval }
    metrics := {
      collector := if a.noForward then none else some (a.metricsAddress.getD "localhost:2003")
      space := a.metricsSpace.getD "performance"
    }
    verbose := a.verbose
  }

end Arguments

end FleetTrial
