import FleetTrial.Time.Duration

/-!
# Settings of a trial

Everything that a trial is told before it starts: which control plane it loads, which fleet the
allocations are drawn from, how many users run and for how long, how the pollers are paced and
where the measurements go. The resource paths follow from the fleet.
-/

namespace FleetTrial

/-- The control plane under load. -/
structure Target where
  url : String
  /-- Whether certificates go unchecked. -/
  insecure : Bool
  /-- Extra headers of every request, each as `Name: value`. -/
  headers : List String
  timeout : Duration
  deriving DecidableEq, Repr

/-- The fleet that allocations are drawn from. -/
structure Fleet where
  name : String
  replicas : Nat
  /-- The namespace that the fleet lives in. -/
  space : String
  image : String
  containerPort : Nat
  /-- Whether the fleet is created, and its scaling awaited, before any user starts. -/
  setup : Bool
  deleteOnExit : Bool
  deriving DecidableEq, Repr

/-- The virtual users and the bounds of their think time. -/
structure Crowd where
  users : Nat
  minWait : Duration
  maxWait : Duration
  deriving DecidableEq, Repr

/-- What ends the users' work: a time, a total number of attempts, or both. -/
structure Extent where
  duration : Option Duration
  attempts : Option Nat
  deriving DecidableEq, Repr

/-- The deadlines of the pollers, and the pause between two polls. -/
structure Polling where
  allocationDeadline : Option Duration
  scaleDeadline : Option Duration
  interval : Duration
  deriving DecidableEq, Repr

/-- Where measurements are forwarded to, if anywhere, and under which namespace. -/
structure Metrics where
  collector : Option String
  space : String
  deriving DecidableEq, Repr

/-- The settings of a trial. -/
structure Settings where
  target : Target
  fleet : Fleet
  crowd : Crowd
  extent : Extent
  polling : Polling
  metrics : Metrics
  verbose : Bool
  deriving DecidableEq, Repr

namespace Settings

/-- The group and version of the resources that a trial deals with. -/
def apiVersion : String := "stable.agones.dev/v1alpha1"

/-- The path of the resources in the fleet's namespace. -/
def spacePath (s : Settings) : String :=
  "/apis/" ++ apiVersion ++ "/namespaces/" ++ s.fleet.space

/-- The path at which fleets are created. -/
def fleetsPath (s : Settings) : String := s.spacePath ++ "/fleets"

/-- The path of the fleet. -/
def fleetPath (s : Settings) : String := s.fleetsPath ++ "/" ++ s.fleet.name

/-- The path at which allocations are requested. -/
def allocationsPath (s : Settings) : String := s.spacePath ++ "/gameserverallocations"

end Settings

end FleetTrial
