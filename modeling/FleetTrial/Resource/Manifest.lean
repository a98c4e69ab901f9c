import FleetTrial.Json.Value
import FleetTrial.Settings.Basic

/-!
# Manifests

The bodies of the two requests that create something: a fleet whose game servers are packed onto
nodes and have one dynamic port, and an allocation of any ready game server of the fleet. Members
stand in alphabetical order.
-/

namespace FleetTrial.Manifest

/-- The label by which a game server names its fleet. -/
def fleetLabel : String := "stable.agones.dev/fleet"

/-- What the names of allocations start with. -/
def allocationName : String := "gs-allocation-"

/-- The template of a fleet's game servers. -/
def gameServer (f : Fleet) : Json :=
  .object
    [("spec", .object
      [("ports", .array
        [.object
          [("containerPort", .number f.containerPort),
           ("name", .string "default"),
           ("portPolicy", .string "dynamic")]]),
       ("template", .object
        [("spec", .object
          [("containers", .array
            [.object [("image", .string f.image), ("name", .string "game-server")]])])])])]

/-- The body that creates the fleet. -/
def fleet (s : Settings) : Json :=
  .object
    [("apiVersion", .string Settings.apiVersion),
     ("kind", .string "Fleet"),
     ("metadata", .object
      [("name", .string s.fleet.name), ("namespace", .string s.fleet.space)]),
     ("spec", .object
      [("replicas", .number s.fleet.replicas),
       ("scheduling", .string "Packed"),
       ("strategy", .object [("type", .string "RollingUpdate")]),
       ("template", gameServer s.fleet)])]

/-- The body that requests an allocation. -/
def allocation (s : Settings) : Json :=
  .object
    [("apiVersion", .string Settings.apiVersion),
     ("kind", .string "GameServerAllocation"),
     ("metadata", .object
      [("generateName", .string allocationName), ("namespace", .string s.fleet.space)]),
     ("spec", .object
      [("required", .object
        [("matchLabels", .object [(fleetLabel, .string s.fleet.name)])])])]

end FleetTrial.Manifest
