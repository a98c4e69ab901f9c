import FleetTrial.Measurement.Forwarder

/-!
# Streams to a collector

What a collector receives over an open connection is the stream of the events that are written to
it: their lines one behind another, in order. A closed connection takes nothing any more.
-/

namespace FleetTrial

namespace Event

/-- The lines of some events, one behind another. -/
def stream (space : String) (events : List Event) : String := String.join (events.map (line space))

@[simp] theorem stream_nil (space : String) : stream space [] = "" := rfl

theorem stream_append (space : String) (events later : List Event) :
    stream space (events ++ later) = stream space events ++ stream space later := by
  rw [stream, List.map_append, String.join_append, stream, stream]

end Event

namespace Forwarder

/-- Writes an event to an open connection. -/
def write (e : Event) (f : Forwarder) : Forwarder :=
  { f with received := f.received ++ e.line f.space }

/-- Writes events to an open connection in order. -/
def writeAll (events : List Event) (f : Forwarder) : Forwarder :=
  events.foldl (fun f e => f.write e) f

@[simp] theorem isOpen_writeAll (events : List Event) (f : Forwarder) :
    (f.writeAll events).isOpen = f.isOpen := by
  induction events generalizing f with
  | nil => rfl
  | cons e events ih => exact ih (f.write e)

/-- Written events arrive as their stream. -/
theorem writeAll_eq (events : List Event) (f : Forwarder) :
    f.writeAll events = { f with received := f.received ++ Event.stream f.space events } := by
  induction events generalizing f with
  | nil => exact congrArg (Forwarder.mk f.space · f.isOpen) (String.append_empty).symm
  | cons e events ih =>
    have hstream : Event.stream f.space (e :: events) =
        e.line f.space ++ Event.stream f.space events := String.join_cons
    rw [hstream, ← String.append_assoc]
    exact ih (f.write e)

/-- An open connection takes an event. -/
theorem send_of_isOpen {f : Forwarder} (hopen : f.isOpen = true) (e : Event) :
    f.send e = .ok (f.write e) := by
  simp only [send, hopen, if_true, write]

/-- A closed connection refuses an event. -/
theorem send_of_not_isOpen {f : Forwarder} (hclosed : f.isOpen = false) (e : Event) :
    f.send e = .error closedError := by
  simp only [send, hclosed, Bool.false_eq_true, if_false]

/-- Offers events to a connection, which takes them if it is open. -/
def offerAll (events : List Event) (f : Forwarder) : Forwarder :=
  if f.isOpen then f.writeAll events else f

@[simp] theorem isOpen_offerAll (events : List Event) (f : Forwarder) :
    (f.offerAll events).isOpen = f.isOpen := by
  unfold offerAll
  split
  · exact f.isOpen_writeAll events
  · rfl

@[simp] theorem space_offerAll (events : List Event) (f : Forwarder) :
    (f.offerAll events).space = f.space := by
  unfold offerAll
  split
  · rw [writeAll_eq]
  · rfl

@[simp] theorem offerAll_nil (f : Forwarder) : f.offerAll [] = f := ite_self f

theorem offerAll_append (events later : List Event) (f : Forwarder) :
    f.offerAll (events ++ later) = (f.offerAll events).offerAll later := by
  cases hopen : f.isOpen with
  | true =>
    have hafter : (f.writeAll events).isOpen = true := by rw [isOpen_writeAll, hopen]
    simp only [offerAll, hopen, hafter, if_true]
    exact List.foldl_append
  | false => simp only [offerAll, hopen, Bool.false_eq_true, if_false]

end Forwarder

end FleetTrial
