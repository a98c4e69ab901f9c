import FleetTrial.Settings.Basic
import FleetTrial.Settings.Fault
import FleetTrial.Text.Blank
import FleetTrial.Text.Split
import FleetTrial.Url.Address

/-!
# Checking the settings

Settings are checked part by part in a fixed order, and the first fault is the one reported.
-/

namespace FleetTrial

/-- The most users that one trial runs. -/
def maxUsers : Nat := 10000

/-- Passes if the condition does not hold and fails with the fault if it does. -/
def refuseIf (bad : Bool) (fault : SettingsFault) : Except SettingsFault Unit :=
  if bad then .error fault else .ok ()

namespace Target

/-- Checks the control plane: an http or https URL, and some time for a request. -/
def check (t : Target) : Except SettingsFault Unit :=
  match Url.Address.parse t.url with
  | .error fault => .error (.url t.url fault)
  | .ok address => do
    refuseIf (address.schemeText != "http" && address.schemeText != "https")
      (.scheme address.schemeText)
    refuseIf t.timeout.isZero .noTimeout

end Target

namespace Fleet

/-- Checks the fleet: a name, a namespace and at least one replica. -/
def check (f : Fleet) : Except SettingsFault Unit := do
  refuseIf (Text.isAllBlank f.name) .noFleetName
  refuseIf (Text.isAllBlank f.space) .noNamespace
  refuseIf (f.replicas == 0) .noReplicas

end Fleet

namespace Crowd

/-- Checks the users: their number, and the order of the bounds of their think time. -/
def check (c : Crowd) : Except SettingsFault Unit := do
  refuseIf (c.users == 0) .noUsers
  refuseIf (maxUsers < c.users) (.tooManyUsers maxUsers)
  refuseIf (c.maxWait < c.minWait) (.waitsInverted c.minWait c.maxWait)

end Crowd

namespace Extent

/-- Checks what ends the work of `users` users: there is something that does, it takes some
time, and there is an attempt for every user. -/
def check (users : Nat) (e : Extent) : Except SettingsFault Unit := do
  refuseIf (e.duration.isNone && e.attempts.isNone) .noEnd
  refuseIf (e.duration.any Duration.isZero) .noDuration
  match e.attempts with
  | none => pure ()
  | some attempts => refuseIf (attempts < users) (.tooFewAttempts attempts users)

end Extent

namespace Polling

/-- Checks that a deadline leaves some time. -/
def check (p : Polling) : Except SettingsFault Unit := do
  refuseIf (p.allocationDeadline.any Duration.isZero) .noAllocationDeadline
  refuseIf (p.scaleDeadline.any Duration.isZero) .noScaleDeadline

end Polling

namespace Metrics

/-- Checks the address of a collector: a host and a port. -/
def checkCollector (address : String) : Except SettingsFault Unit :=
  match Text.splitLast ':' address.toList with
  | none => .error (.collectorWithoutPort address)
  | some (host, port) =>
    if host.isEmpty then .error (.collectorWithoutHost address)
    else
      match Text.readUnsigned Text.maxWord16 port with
      | .error fault => .error (.collectorPort address fault)
      | .ok _ => .ok ()

/-- Checks the namespace of the measurements, which holds no blank, and the collector. -/
def check (m : Metrics) : Except SettingsFault Unit := do
  refuseIf (m.space.isEmpty || m.space.toList.any Text.isBlank) (.metricsNamespace m.space)
  match m.collector with
  | none => pure ()
  | some address => checkCollector address

end Metrics

/-- Checks that every custom header has a colon. -/
def checkHeaders (headers : List String) : Except SettingsFault Unit :=
  match headers.find? fun header => !header.toList.contains ':' with
  | none => .ok ()
  | some header => .error (.header header)

/-- Checks the settings, part by part. -/
def Settings.check (s : Settings) : Except SettingsFault Unit := do
  s.target.check
  s.fleet.check
  s.crowd.check
  s.extent.check s.crowd.users
  s.polling.check
  s.metrics.check
  checkHeaders s.target.headers

end FleetTrial
