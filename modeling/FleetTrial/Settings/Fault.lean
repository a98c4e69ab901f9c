import FleetTrial.Note
import FleetTrial.Time.Written
import FleetTrial.Url.Fault

/-!
# Faults of the settings

Every reason for which settings are refused, each with its wording.
-/

namespace FleetTrial

/-- Why settings are refused. -/
inductive SettingsFault
  | duration (fault : DurationFault)
  | url (url : String) (fault : Url.Fault)
  | scheme (scheme : String)
  | noTimeout
  | noFleetName
  | noNamespace
  | noReplicas
  | noUsers
  | tooManyUsers (limit : Nat)
  /-- The least think time is longer than the greatest. -/
  | waitsInverted (least greatest : Duration)
  /-- Neither a duration nor a number of attempts ends the trial. -/
  | noEnd
  | noDuration
  | tooFewAttempts (attempts users : Nat)
  | noAllocationDeadline
  | noScaleDeadline
  | metricsNamespace (name : String)
  | collectorWithoutPort (address : String)
  | collectorWithoutHost (address : String)
  | collectorPort (address : String) (fault : Text.NumberFault)
  | header (header : String)
  | noted (note : Note)
  deriving DecidableEq, Repr

/-- The wording of a fault of the settings. -/
def SettingsFault.message : SettingsFault → String
  | .duration fault => fault.message
  | .url text fault => "Invalid control plane URL '" ++ text ++ "': " ++ fault.message
  | .scheme name =>
    "Invalid URL scheme '" ++ name ++ "'. Only 'http' and 'https' are supported"
  | .noTimeout => "Timeout must be greater than 0"
  | .noFleetName => "Fleet name cannot be empty"
  | .noNamespace => "Namespace cannot be empty"
  | .noReplicas => "Fleet size must be greater than 0"
  | .noUsers => "Number of users must be greater than 0"
  | .tooManyUsers limit => "Number of users cannot exceed " ++ toString limit
  | .waitsInverted least greatest =>
    "Minimum wait (" ++ toString least.millis ++ "ms) cannot exceed maximum wait (" ++
      toString greatest.millis ++ "ms)"
  | .noEnd => "Must specify either --duration or --iterations to define test termination"
  | .noDuration => "Duration must be greater than 0"
  | .tooFewAttempts attempts users =>
    "Iterations (" ++ toString attempts ++ ") must be at least the number of users (" ++
      toString users ++ ")"
  | .noAllocationDeadline => "Allocation deadline must be greater than 0"
  | .noScaleDeadline => "Scale deadline must be greater than 0"
  | .metricsNamespace name =>
    "Invalid metrics namespace '" ++ name ++ "'. It must be non-empty and contain no whitespace"
  | .collectorWithoutPort address =>
    "Invalid metrics address '" ++ address ++ "'. Use 'host:port' format"
  | .collectorWithoutHost address =>
    "Invalid metrics address '" ++ address ++ "'. Host cannot be empty"
  | .collectorPort address fault =>
    "Invalid metrics port in '" ++ address ++ "': " ++ fault.message
  | .header text => "Invalid header format '" ++ text ++ "'. Use 'Key: Value' format"
  | .noted note => note.message

end FleetTrial
