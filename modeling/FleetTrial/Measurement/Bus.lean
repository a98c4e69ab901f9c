import FleetTrial.Measurement.Event

/-!
# The event bus

A bus hands every event to its sinks in the order in which they were registered. Each
registration gets a number of its own that is never given out again. A sink that fails is passed
over: the sinks behind it still get the event, and only the count of deliveries tells.
-/

namespace FleetTrial

/-- A bus whose sinks are named by values of `κ`. -/
structure Bus (κ : Type) where
  /-- The number of the next registration. -/
  nextId : Nat
  /-- The registered sinks, in the order of their registration. -/
  sinks : List (Nat × κ)
  deriving Repr

namespace Bus

variable {κ σ : Type}

/-- A bus without sinks. -/
def empty : Bus κ := ⟨0, []⟩

/-- Registers a sink: the bus, and the number of the registration. -/
def subscribe (sink : κ) (bus : Bus κ) : Bus κ × Nat :=
  (⟨bus.nextId + 1, bus.sinks ++ [(bus.nextId, sink)]⟩, bus.nextId)

/-- Whether a registration is still there. -/
def isRegistered (id : Nat) (bus : Bus κ) : Bool := bus.sinks.any fun s => s.1 == id

/-- Removes a registration: the bus, and whether there was one to remove. -/
def unsubscribe (id : Nat) (bus : Bus κ) : Bus κ × Bool :=
  (⟨bus.nextId, bus.sinks.filter fun s => s.1 != id⟩, bus.isRegistered id)

/-- Hands an event to sinks in order, each of which changes the state it is kept in and says
whether it took the event: the state afterwards, and how many took it. -/
def deliver (accept : κ → Event → σ → σ × Bool) (e : Event) : List κ → σ → σ × Nat
  | [], state => (state, 0)
  | sink :: rest, state =>
    let (after, taken) := accept sink e state
    let (last, count) := deliver accept e rest after
    (last, if taken then count + 1 else count)

/-- Publishes an event to all registered sinks. -/
def publish (accept : κ → Event → σ → σ × Bool) (e : Event) (bus : Bus κ) (state : σ) : σ × Nat :=
  deliver accept e (bus.sinks.map (·.2)) state

/-- What a bus looks like in a log. -/
def logText (bus : Bus κ) : String :=
  "EventBus \x7b next_id: " ++ toString bus.nextId ++ ", .. \x7d"

/-- What the number of a registration looks like in a log. -/
def idText (id : Nat) : String := "SubscriptionId(" ++ toString id ++ ")"

end Bus

end FleetTrial
