import FleetTrial.CommandLine.Arguments
import FleetTrial.CommandLine.Refusal
import FleetTrial.Text.Number

/-!
# The options of the command line

How each option is spelled, and what it does to the arguments. An option takes a value, or it is
a switch, or it asks for information and so ends the reading.
-/

namespace FleetTrial.CommandLine

/-- Where the value of an option goes. -/
structure Slot where
  /-- Whether the option stands on the line already and may not stand there again. -/
  taken : Arguments → Bool
  /-- Puts the value into the arguments; none if the option does not take it. -/
  put : String → Arguments → Option Arguments

/-- A slot for any text. -/
def Slot.text (get : Arguments → Option String) (set : String → Arguments → Arguments) : Slot where
  taken a := (get a).isSome
  put value a := some (set value a)

/-- A slot for a number, read by `read`. -/
def Slot.number (read : List Char → Except Text.NumberFault Nat) (get : Arguments → Option Nat)
    (set : Nat → Arguments → Arguments) : Slot where
  taken a := (get a).isSome
  put value a :=
    match read value.toList with
    | .ok n => some (set n a)
    | .error _ => none

/-- A slot that takes a text each time the option stands on the line. -/
def Slot.texts (add : String → Arguments → Arguments) : Slot where
  taken _ := false
  put value a := some (add value a)

/-- What an option does. -/
inductive Effect
  | value (slot : Slot)
  /-- Is a switch: whether it is on already, and what it turns on. -/
  | switch (taken : Arguments → Bool) (turnOn : Arguments → Arguments)
  /-- Asks for information instead. -/
  | information (answer : Refusal)

/-- An option with its spellings. -/
structure Entry where
  long : String
  short : Option Char
  effect : Effect

/-- Numbers of 16 and 32 bits are read in signed notation, those of 64 bits in unsigned. -/
def readWord16 : List Char → Except Text.NumberFault Nat := Text.readSigned Text.maxWord16

@[inherit_doc readWord16]
def readWord32 : List Char → Except Text.NumberFault Nat := Text.readSigned Text.maxWord32

@[inherit_doc readWord16]
def readWord64 : List Char → Except Text.NumberFault Nat := Text.readUnsigned Text.maxWord64

/-- The options that say what is loaded, how much and for how long. -/
def loadEntries : List Entry :=
  [⟨"host", some 't', .value (.text (·.host) fun v a => { a with host := some v })⟩,
   ⟨"users", some 'u', .value (.number readWord32 (·.users) fun v a => { a with users := some v })⟩,
   ⟨"duration", some 'd', .value (.text (·.duration) fun v a => { a with duration := some v })⟩,
   ⟨"iterations", some 'n',
    .value (.number readWord64 (·.attempts) fun v a => { a with attempts := some v })⟩,
   ⟨"min-wait", none, .value (.text (·.minWait) fun v a => { a with minWait := some v })⟩,
   ⟨"max-wait", none, .value (.text (·.maxWait) fun v a => { a with maxWait := some v })⟩]

/-- The options about the fleet. -/
def fleetEntries : List Entry :=
  [⟨"fleet-name", none, .value (.text (·.fleetName) fun v a => { a with fleetName := some v })⟩,
   ⟨"fleet-size", none,
    .value (.number readWord32 (·.fleetSize) fun v a => { a with fleetSize := some v })⟩,
   ⟨"namespace", none, .value (.text (·.space) fun v a => { a with space := some v })⟩,
   ⟨"image", none, .value (.text (·.image) fun v a => { a with image := some v })⟩,
   ⟨"container-port", none,
    .value (.number readWord16 (·.containerPort) fun v a => { a with containerPort := some v })⟩,
   ⟨"skip-fleet-setup", none,
    .switch (·.skipFleetSetup) fun a => { a with skipFleetSetup := true }⟩,
   ⟨"delete-fleet", none, .switch (·.deleteFleet) fun a => { a with deleteFleet := true }⟩]

/-- The options about requests and polls. -/
def requestEntries : List Entry :=
  [⟨"allocation-deadline", none,
    .value (.text (·.allocationDeadline) fun v a => { a with allocationDeadline := some v })⟩,
   ⟨"scale-deadline", none,
    .value (.text (·.scaleDeadline) fun v a => { a with scaleDeadline := some v })⟩,
   ⟨"poll-interval", none,
    .value (.text (·.pollInterval) fun v a => { a with pollInterval := some v })⟩,
   ⟨"timeout", none,
    .value (.number readWord64 (·.timeout) fun v a => { a with timeout := some v })⟩,
   ⟨"header", some 'H', .value (.texts fun v a => { a with headers := a.headers ++ [v] })⟩,
   ⟨"insecure", none, .switch (·.insecure) fun a => { a with insecure := true }⟩]

/-- The options about what a trial reports. -/
def reportEntries : List Entry :=
  [⟨"metrics-addr", none,
    .value (.text (·.metricsAddress) fun v a => { a with metricsAddress := some v })⟩,
   ⟨"metrics-namespace", none,
    .value (.text (·.metricsSpace) fun v a => { a with metricsSpace := some v })⟩,
   ⟨"no-forward", none, .switch (·.noForward) fun a => { a with noForward := true }⟩,
   ⟨"verbose", some 'v', .switch (·.verbose) fun a => { a with verbose := true }⟩,
   ⟨"help", some 'h', .information .displayHelp⟩,
   ⟨"version", some 'V', .information .displayVersion⟩]

/-- All options. -/
def entries : List Entry := loadEntries ++ fleetEntries ++ requestEntries ++ reportEntries

/-- The effect of a long option. -/
def longEffect? (name : String) : Option Effect :=
  (entries.find? fun e => e.long == name).map (·.effect)

/-- The effect of a short option. -/
def shortEffect? (letter : Char) : Option Effect :=
  (entries.find? fun e => e.short == some letter).map (·.effect)

end FleetTrial.CommandLine
