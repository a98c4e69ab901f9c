import FleetTrial.Measurement.Bus
import FleetTrial.Measurement.Forwarder
import FleetTrial.Measurement.Tally

/-!
# Hubs

A hub is a bus together with everything its sinks keep: one tally, any number of forwarders, and
the notes of recorders. A recorder notes every event that it is handed; one that fails does so
after it has noted the event.
-/

namespace FleetTrial

/-- A sink of a hub. -/
inductive Sink
  | recorder (name : String) (fails : Bool)
  | tally
  /-- The forwarder with this number. -/
  | forwarder (index : Nat)
  deriving DecidableEq, Repr

/-- What the sinks of a hub keep. -/
structure Kept where
  tally : Tally
  /-- The forwarders, in the order in which they were connected. -/
  forwarders : List Forwarder
  /-- What the recorders have noted, each event under the name of its recorder. -/
  notes : List (String × Event)
  deriving DecidableEq, Repr

namespace Kept

/-- Nothing kept. -/
def empty : Kept := ⟨.empty, [], []⟩

/-- Writes an event to a forwarder. -/
def send (index : Nat) (e : Event) (k : Kept) : Except TrialError Kept :=
  match k.forwarders[index]? with
  | none => .error Forwarder.closedError
  | some f => (f.send e).map fun f => { k with forwarders := k.forwarders.set index f }

/-- Hands an event to a sink: what is kept afterwards, and whether the sink took it. -/
def accept (sink : Sink) (e : Event) (k : Kept) : Kept × Bool :=
  match sink with
  | .recorder name fails => ({ k with notes := k.notes ++ [(name, e)] }, !fails)
  | .tally => ({ k with tally := k.tally.record e }, true)
  | .forwarder index =>
    match k.send index e with
    | .ok after => (after, true)
    | .error _ => (k, false)

/-- Closes a forwarder. -/
def close (index : Nat) (k : Kept) : Kept :=
  { k with forwarders := k.forwarders.modify index Forwarder.close }

end Kept

/-- A bus with what its sinks keep. -/
structure Hub where
  bus : Bus Sink
  kept : Kept
  deriving Repr

namespace Hub

/-- A hub without sinks. -/
def empty : Hub := ⟨.empty, .empty⟩

/-- Registers a sink: the hub, and the number of the registration. -/
def subscribe (sink : Sink) (h : Hub) : Hub × Nat :=
  let (bus, id) := h.bus.subscribe sink
  ({ h with bus }, id)

/-- Connects a new forwarder and registers it. -/
def connect (space : String) (h : Hub) : Hub × Nat :=
  let index := h.kept.forwarders.length
  let kept := { h.kept with forwarders := h.kept.forwarders ++ [Forwarder.connect space] }
  ({ h with kept }).subscribe (.forwarder index)

/-- Removes a registration: the hub, and whether there was one to remove. -/
def unsubscribe (id : Nat) (h : Hub) : Hub × Bool :=
  let (bus, removed) := h.bus.unsubscribe id
  ({ h with bus }, removed)

/-- Publishes an event: the hub, and how many sinks took the event. -/
def publish (e : Event) (h : Hub) : Hub × Nat :=
  let (kept, count) := h.bus.publish Kept.accept e h.kept
  ({ h with kept }, count)

/-- Publishes events in order. -/
def publishAll (events : List Event) (h : Hub) : Hub := events.foldl (fun h e => (h.publish e).1) h

/-- Writes an event to a forwarder without the bus. -/
def send (index : Nat) (e : Event) (h : Hub) : Except TrialError Hub :=
  (h.kept.send index e).map fun kept => { h with kept }

/-- Closes a forwarder. -/
def close (index : Nat) (h : Hub) : Hub := { h with kept := h.kept.close index }

/-- Forgets what the recorders have noted. -/
def clearNotes (h : Hub) : Hub := { h with kept := { h.kept with notes := [] } }

end Hub

end FleetTrial
