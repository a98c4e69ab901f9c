import FleetTrial.Error
import FleetTrial.Measurement.Event

/-!
# Forwarders

A forwarder owns one connection to a metrics collector and writes a line to it for each event.
The end of the stream follows the last line once the connection is closed; nothing can be written
after that, and closing again does nothing.
-/

namespace FleetTrial

/-- A connection to a collector. -/
structure Forwarder where
  /-- The namespace of the lines. -/
  space : String
  /-- What the collector has received. -/
  received : String
  isOpen : Bool
  deriving DecidableEq, Repr

namespace Forwarder

/-- A connection that has just been opened. -/
def connect (space : String) : Forwarder := ⟨space, "", true⟩

/-- The error of a connection that could not be opened. -/
def unreachable (address cause : String) : TrialError :=
  .telemetry ⟨"Failed to connect to metrics collector " ++ address, some cause⟩

/-- The error of a connection that nobody accepts. -/
def refusal (address : String) : TrialError := unreachable address "Connection refused"

/-- The error of writing to a closed connection. -/
def closedError : TrialError := .telemetry (.plain "Metrics connection is closed")

/-- Writes an event, unless the connection is closed. -/
def send (e : Event) (f : Forwarder) : Except TrialError Forwarder :=
  if f.isOpen then .ok { f with received := f.received ++ e.line f.space }
  else .error closedError

/-- Closes the connection. -/
def close (f : Forwarder) : Forwarder := { f with isOpen := false }

end Forwarder

end FleetTrial
