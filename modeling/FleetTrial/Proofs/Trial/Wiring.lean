import FleetTrial.Proofs.Measurement.Recording
import FleetTrial.Proofs.Measurement.Stream
import FleetTrial.Trial.User

/-!
# How a user is wired

The bus of a working user hands every event to the tally first and then, if the user has one, to
its open connection. So publishing records the events and writes them to the connection, and does
nothing else. A user that has finished keeps nothing but the tally on its bus; its connection is
closed, and the user has given it up.
-/

namespace FleetTrial

namespace User

variable {u : User} {tally : Tally}

/-- Whether a user has no connection, and has had none. -/
def IsBare (u : User) : Prop :=
  u.bus = ⟨1, [(0, .tally)]⟩ ∧ u.registration = none ∧ u.handle = none ∧ u.released = none

/-- Whether a user has an open connection of its own, its first one. -/
def IsLinked (u : User) : Prop :=
  u.bus = ⟨2, [(0, .tally), (1, .forwarder)]⟩ ∧ u.registration = some 1 ∧ u.released = none ∧
    ∃ f, u.handle = some f ∧ f.isOpen = true

/-- Whether a user is ready to publish events. -/
def IsWired (u : User) : Prop := u.IsBare ∨ u.IsLinked

/-- Whether a user has taken its connection off the bus, closed it and given it up. -/
def IsTornDown (u : User) : Prop :=
  u.bus.sinks = [(0, .tally)] ∧ u.registration = none ∧ u.handle = none ∧
    ∀ f ∈ u.released, f.isOpen = false

/-- A user that has written events to its connection, if it has one. -/
def forwardAll (events : List Event) (u : User) : User :=
  { u with handle := u.handle.map (·.writeAll events) }

/-- Writing nothing changes nothing. -/
@[simp] theorem forwardAll_nil (u : User) : u.forwardAll [] = u := by
  simp only [forwardAll, Forwarder.writeAll, List.foldl_nil, Option.map_id']

/-- Writing to a connection does not change whether there is one. -/
@[simp] theorem isSome_forwarder_forwardAll (events : List Event) (u : User) :
    (u.forwardAll events).forwarder.isSome = u.forwarder.isSome := by
  simp only [forwardAll, forwarder, Option.isSome_or, Option.isSome_map]

/-- A connection that is torn down has been there. -/
@[simp] theorem isSome_forwarder_tearDown (u : User) :
    u.tearDown.forwarder.isSome = u.forwarder.isSome := by
  simp only [tearDown, forwarder, Option.isSome_or, Option.isSome_map, Option.isSome_none,
    Bool.false_or]

/-- What a wired user does with an event. -/
theorem IsWired.publish_eq (hwired : u.IsWired) (e : Event) :
    u.publish tally e = (tally.record e, u.forwardAll [e]) := by
  rcases hwired with ⟨hbus, _, hhandle, _⟩ | ⟨hbus, _, _, f, hhandle, hopen⟩
  · simp only [publish, hbus, hhandle, forwardAll]
    rfl
  · simp only [publish, hbus, hhandle, Bus.publish, List.map_cons, List.map_nil, Bus.deliver,
      accept, Forwarder.send_of_isOpen hopen, forwardAll]
    rfl

/-- Writing to its connection leaves a user wired. -/
theorem IsWired.forwardAll (hwired : u.IsWired) (events : List Event) :
    (u.forwardAll events).IsWired := by
  rcases hwired with ⟨hbus, hregistration, hhandle, hreleased⟩ |
    ⟨hbus, hregistration, hreleased, f, hhandle, hopen⟩
  · refine .inl ⟨hbus, hregistration, ?_, hreleased⟩
    simp only [User.forwardAll, hhandle, Option.map_none]
  · refine .inr ⟨hbus, hregistration, hreleased, f.writeAll events, ?_, ?_⟩
    · simp only [User.forwardAll, hhandle, Option.map_some]
    · rw [Forwarder.isOpen_writeAll, hopen]

/-- A wired user records the events that it publishes, and writes them to its connection. -/
theorem IsWired.publishAll_eq (hwired : u.IsWired) (events : List Event) :
    u.publishAll tally events = (tally.recordAll events, u.forwardAll events) := by
  induction events generalizing u tally with
  | nil => rw [publishAll, Tally.recordAll_nil, forwardAll_nil]
  | cons e events ih =>
    have hrest : (u.forwardAll [e]).forwardAll events = u.forwardAll (e :: events) := by
      simp only [User.forwardAll, Option.map_map]
      rfl
    rw [publishAll, hwired.publish_eq]
    simp only
    rw [ih (hwired.forwardAll [e]), hrest, Tally.recordAll_cons]

/-- A wired user tears its connection down. -/
theorem IsWired.isTornDown_tearDown (hwired : u.IsWired) : u.tearDown.IsTornDown := by
  rcases hwired with ⟨hbus, hregistration, hhandle, hreleased⟩ |
    ⟨hbus, hregistration, _, f, hhandle, _⟩
  · refine ⟨?_, rfl, rfl, ?_⟩
    · simp only [tearDown, hbus, hregistration]
    · simp only [tearDown, hhandle, hreleased, Option.map_none, Option.or_none]
      nofun
  · refine ⟨?_, rfl, rfl, ?_⟩
    · simp only [tearDown, hbus, hregistration]
      rfl
    · simp only [tearDown, hhandle, Option.map_some, Option.some_or]
      rintro g ⟨⟩
      rfl

end User

end FleetTrial
