import FleetTrial.Json.Record
import FleetTrial.Json.Value

/-!
# Snapshots of a resource

What the control plane says about a fleet or an allocation at one instant. Only the members that
a trial looks at are kept. The status is absent until the control plane has looked at the
resource for the first time.
-/

namespace FleetTrial

/-- What a resource is called. -/
structure Metadata where
  name : Option String
  selfLink : Option String
  deriving DecidableEq, Repr

/-- What the control plane found out about a resource. -/
structure Status where
  readyReplicas : Option UInt64
  state : Option String
  gameServerName : Option String
  deriving DecidableEq, Repr

/-- A resource at one instant. -/
structure Snapshot where
  metadata : Metadata
  status : Option Status
  deriving DecidableEq, Repr

namespace Metadata

/-- Metadata that says nothing. -/
def empty : Metadata := ⟨none, none⟩

/-- The members of metadata, in their declared order. -/
def members : List (Json.Member Metadata) :=
  [.of "name" Json.textReader.nullable fun name m => { m with name },
   .of "selfLink" Json.textReader.nullable fun selfLink m => { m with selfLink }]

/-- Reads metadata. -/
def reader : Json.Reader Metadata := Json.recordReader members empty

/-- The JSON form of metadata, without the absent members. -/
def toJson (m : Metadata) : Json :=
  .object ((m.name.map fun name => ("name", Json.string name)).toList ++
    (m.selfLink.map fun link => ("selfLink", Json.string link)).toList)

end Metadata

namespace Status

/-- A status that says nothing. -/
def empty : Status := ⟨none, none, none⟩

/-- The members of a status, in their declared order. -/
def members : List (Json.Member Status) :=
  [.of "readyReplicas" Json.countReader.nullable fun readyReplicas s => { s with readyReplicas },
   .of "state" Json.textReader.nullable fun state s => { s with state },
   .of "gameServerName" Json.textReader.nullable fun gameServerName s =>
    { s with gameServerName }]

/-- Reads a status. -/
def reader : Json.Reader Status := Json.recordReader members empty

/-- The JSON form of a status, without the absent members. -/
def toJson (s : Status) : Json :=
  .object ((s.readyReplicas.map fun n => ("readyReplicas", Json.number n.toNat)).toList ++
    (s.state.map fun state => ("state", Json.string state)).toList ++
    (s.gameServerName.map fun name => ("gameServerName", Json.string name)).toList)

end Status

namespace Snapshot

/-- A snapshot that says nothing. -/
def empty : Snapshot := ⟨.empty, none⟩

/-- The members of a snapshot, in their declared order. -/
def members : List (Json.Member Snapshot) :=
  [.of "metadata" Metadata.reader fun metadata s => { s with metadata },
   .of "status" Status.reader.nullable fun status s => { s with status }]

/-- Reads a snapshot. -/
def reader : Json.Reader Snapshot := Json.recordReader members empty

/-- Reads a text that holds one snapshot and nothing else. -/
def parse (text : String) : Except Json.Fault Snapshot := reader.whole text.toList

/-- The JSON form of a snapshot, without the absent members. -/
def toJson (s : Snapshot) : Json :=
  .object (("metadata", s.metadata.toJson) ::
    (s.status.map fun status => ("status", status.toJson)).toList)

/-- The compact text of a snapshot. -/
def text (s : Snapshot) : String := s.toJson.render

/-- The path of the handle by which a resource is fetched again. -/
def selfLinkPath : String := "metadata.selfLink"

/-- The path of the count of ready replicas. -/
def readyReplicasPath : String := "status.readyReplicas"

/-- The handle by which a resource is fetched again. -/
def selfLink? (s : Snapshot) : Option String := s.metadata.selfLink

/-- The count of ready replicas, if there is a status that has one. -/
def readyReplicas? (s : Snapshot) : Option UInt64 := s.status.bind (·.readyReplicas)

/-- The state of an allocation, if there is a status that has one. -/
def state? (s : Snapshot) : Option String := s.status.bind (·.state)

/-- A snapshot that the control plane has not looked at yet. -/
def pending (link : String) : Snapshot := ⟨⟨none, some link⟩, none⟩

/-- A snapshot of an allocation in a state. -/
def inState (link state : String) : Snapshot := ⟨⟨none, some link⟩, some ⟨none, some state, none⟩⟩

/-- A snapshot of a fleet with a number of ready replicas. -/
def withReady (link : String) (ready : UInt64) : Snapshot :=
  ⟨⟨none, some link⟩, some ⟨some ready, none, none⟩⟩

end Snapshot

end FleetTrial
