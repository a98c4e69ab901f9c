import FleetTrial.Text.Blank
import FleetTrial.Time.Duration

/-!
# Written durations

A duration is written as a whole number and an optional unit, with blanks allowed around the
text and around the number. Without a unit the number counts seconds. A product beyond 2^64 - 1
milliseconds becomes that many milliseconds; a number beyond 2^64 - 1 is refused.
-/

namespace FleetTrial

/-- Why a text is not a duration. -/
inductive DurationFault
  | empty
  /-- The text, without the blanks around it, is no number with a unit. -/
  | malformed (text : String)
  deriving DecidableEq, Repr

/-- The wording of a duration fault. -/
def DurationFault.message : DurationFault → String
  | .empty => "Duration cannot be empty"
  | .malformed text =>
    "Invalid duration format: '" ++ text ++
      "' - expected a number with an optional ms/s/m/h suffix"

namespace Duration

/-- The unit suffixes with their milliseconds; an earlier suffix wins over a later one. -/
def unitSuffixes : List (List Char × Nat) :=
  [(['m', 's'], 1), (['s'], 1000), (['S'], 1000), (['m'], 60000), (['M'], 60000),
   (['h'], 3600000), (['H'], 3600000)]

/-- The milliseconds that a number without a unit counts. -/
def plainUnit : Nat := 1000

/-- Takes the unit off the end of a text: what stands before it, and its milliseconds. -/
def splitUnit (text : List Char) : List Char × Nat :=
  match unitSuffixes.find? fun s => s.1.isSuffixOf text with
  | some (suffix, ms) => (text.take (text.length - suffix.length), ms)
  | none => (text, plainUnit)

/-- A count of a unit in milliseconds, at most the largest 64-bit word of them. -/
def ofUnits (count unit : Nat) : Duration :=
  ofMillis (min (count * unit) Text.maxWord64)

/-- Reads a written duration. -/
def parse (text : List Char) : Except DurationFault Duration :=
  let body := Text.trim text
  if body.isEmpty then .error .empty
  else
    let (count, unit) := splitUnit body
    match Text.readUnsigned Text.maxWord64 (Text.trim count) with
    | .ok n => .ok (ofUnits n unit)
    | .error _ => .error (.malformed (String.ofList body))

/-- The word that asks for no deadline at all. -/
def noLimit : List Char := ['n', 'o', 'n', 'e']

/-- Reads a written deadline: a duration, or `none` in any case for no deadline. -/
def parseLimit (text : List Char) : Except DurationFault (Option Duration) :=
  if (Text.trim text).map Char.toLower = noLimit then .ok none
  else (parse text).map some

end Duration

end FleetTrial
