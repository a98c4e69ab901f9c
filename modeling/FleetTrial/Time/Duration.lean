import FleetTrial.Crash
import FleetTrial.Text.Number

/-!
# Durations

A duration is a whole number of nanoseconds. Milliseconds and seconds are read off it by
truncation, and the millisecond count that a measurement carries saturates at a 64-bit word.
The short text of a duration names the largest unit that it fills at least once.
-/

namespace FleetTrial

/-- A span of time in whole nanoseconds. -/
structure Duration where
  nanos : Nat
  deriving DecidableEq, Repr

namespace Duration

/-- The empty span. -/
def zero : Duration := ⟨0⟩

/-- A span of whole milliseconds. -/
def ofMillis (ms : Nat) : Duration := ⟨ms * 1000000⟩

/-- A span of whole seconds. -/
def ofSecs (s : Nat) : Duration := ⟨s * 1000000000⟩

/-- A span of some seconds and nanoseconds; its whole seconds have to fit a 64-bit word. -/
def ofParts (secs nanos : Nat) : Except Crash Duration :=
  let span : Duration := ⟨secs * 1000000000 + nanos⟩
  if span.nanos / 1000000000 ≤ Text.maxWord64 then .ok span else .error .overflow

/-- Whether a span is empty. -/
def isZero (d : Duration) : Bool := d.nanos == 0

/-- The whole milliseconds in a span. -/
def millis (d : Duration) : Nat := d.nanos / 1000000

/-- The whole seconds in a span. -/
def secs (d : Duration) : Nat := d.nanos / 1000000000

/-- The whole milliseconds in a span as a 64-bit word, the largest word standing for every
span beyond it. -/
def wholeMillis (d : Duration) : UInt64 := UInt64.ofNat (min d.millis Text.maxWord64)

/-- The least number of milliseconds that covers a span. -/
def millisCovering (d : Duration) : Nat := (d.nanos + 999999) / 1000000

instance : LE Duration := ⟨fun a b => a.nanos ≤ b.nanos⟩

instance : LT Duration := ⟨fun a b => a.nanos < b.nanos⟩

instance (a b : Duration) : Decidable (a ≤ b) := inferInstanceAs (Decidable (a.nanos ≤ b.nanos))

instance (a b : Duration) : Decidable (a < b) := inferInstanceAs (Decidable (a.nanos < b.nanos))

instance : Add Duration := ⟨fun a b => ⟨a.nanos + b.nanos⟩⟩

/-- The digits of `value` as a fraction of `places` places, without the zeros at its end. -/
def fractionDigits (places value : Nat) : List Char :=
  let digits := Nat.toDigits 10 value
  let padded := List.replicate (places - digits.length) '0' ++ digits
  (padded.reverse.dropWhile (· == '0')).reverse

/-- An amount of a unit that has `places` decimal places below it. -/
def unitText (places whole rest : Nat) (unit : String) : String :=
  let fraction := fractionDigits places rest
  if fraction.isEmpty then toString whole ++ unit
  else toString whole ++ "." ++ String.ofList fraction ++ unit

/-- The short text: the largest of the units s, ms, µs and ns that the span fills at least
once, with every remaining nanosecond as a fraction; the empty span is `0ns`. -/
def shortText (d : Duration) : String :=
  if 1000000000 ≤ d.nanos then
    unitText 9 (d.nanos / 1000000000) (d.nanos % 1000000000) "s"
  else if 1000000 ≤ d.nanos then unitText 6 (d.nanos / 1000000) (d.nanos % 1000000) "ms"
  else if 1000 ≤ d.nanos then unitText 3 (d.nanos / 1000) (d.nanos % 1000) "µs"
  else unitText 0 d.nanos 0 "ns"

/-- The span in seconds as a double: the whole seconds plus the rest as a fraction, each
rounded on its own. -/
def toSeconds (d : Duration) : Float :=
  Float.ofNat d.secs + Float.ofNat (d.nanos % 1000000000) / 1000000000.0

end Duration

end FleetTrial
