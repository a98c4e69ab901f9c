import FleetTrial.CommandLine.Entry
import FleetTrial.Text.Split

/-!
# Reading a command line

The words of a line are read from left to right. An option whose value is the next word stays
pending until another option, or the end of the line, settles it; only then is its value looked
at. So a word that is no option at all is refused before a bad value in front of it, and two
faults are reported in the order in which they are settled.
-/

namespace FleetTrial.CommandLine

/-- An option that is not settled yet. -/
inductive Pending
  | nothing
  /-- The option still waits for its value. -/
  | awaiting (slot : Slot)
  /-- The option has its value. -/
  | holding (slot : Slot) (value : String)

/-- How far a line has been read. -/
structure Progress where
  given : Arguments
  pending : Pending

/-- Gives an option its value: an option that may not stand twice is refused before the value
is. -/
def assign (slot : Slot) (value : String) (given : Arguments) : Except Refusal Arguments :=
  if slot.taken given then .error .argumentConflict
  else
    match slot.put value given with
    | none => .error .valueValidation
    | some given => .ok given

/-- Settles the pending option. -/
def settle (p : Progress) : Except Refusal Arguments :=
  match p.pending with
  | .nothing => .ok p.given
  | .awaiting _ => .error .invalidValue
  | .holding slot value => assign slot value p.given

/-- Meets an option that takes a value, which may be attached to it. -/
def meetValue (slot : Slot) (attached : Option String) (p : Progress) :
    Except Refusal Progress :=
  match settle p with
  | .error refusal => .error refusal
  | .ok given =>
    match attached with
    | none => .ok ⟨given, .awaiting slot⟩
    | some value => (assign slot value given).map (⟨·, .nothing⟩)

/-- Meets a switch. -/
def meetSwitch (taken : Arguments → Bool) (turnOn : Arguments → Arguments) (p : Progress) :
    Except Refusal Progress :=
  match settle p with
  | .error refusal => .error refusal
  | .ok given => if taken given then .error .argumentConflict else .ok ⟨turnOn given, .nothing⟩

/-- Meets a request for information. -/
def meetInformation (answer : Refusal) (p : Progress) : Except Refusal Progress :=
  match settle p with
  | .error refusal => .error refusal
  | .ok _ => .error answer

/-- Reads a long option, its two dashes being gone already. -/
def readLong (word : List Char) (p : Progress) : Except Refusal Progress :=
  let (name, attached) :=
    match Text.splitFirst '=' word with
    | none => (word, none)
    | some (name, value) => (name, some (String.ofList value))
  match longEffect? (String.ofList name), attached with
  | none, _ => .error .unknownArgument
  | some (.value slot), _ => meetValue slot attached p
  | some (.switch _ _), some _ => .error .tooManyValues
  | some (.information _), some _ => .error .tooManyValues
  | some (.switch taken turnOn), none => meetSwitch taken turnOn p
  | some (.information answer), none => meetInformation answer p

/-- The value attached to a short option: what stands behind its letter, an equals sign between
the two not counting. -/
def attachedTo : List Char → Option String
  | [] => none
  | '=' :: value => some (String.ofList value)
  | value => some (String.ofList value)

/-- Reads a cluster of short options, its dash being gone already. -/
def readShorts : List Char → Progress → Except Refusal Progress
  | [], p => .ok p
  | letter :: rest, p =>
    match shortEffect? letter with
    | none => .error .unknownArgument
    | some (.value slot) => meetValue slot (attachedTo rest) p
    | some (.switch taken turnOn) =>
      match meetSwitch taken turnOn p with
      | .error refusal => .error refusal
      | .ok p => readShorts rest p
    | some (.information answer) => meetInformation answer p

/-- Reads a word that is no option: the value that the pending option waits for. -/
def readPlain (word : String) (p : Progress) : Except Refusal Progress :=
  match p.pending with
  | .awaiting slot => .ok ⟨p.given, .holding slot word⟩
  | _ => .error .unknownArgument

/-- Reads one word. -/
def readWord (word : String) (p : Progress) : Except Refusal Progress :=
  match word.toList with
  | '-' :: '-' :: long => readLong long p
  | '-' :: letter :: rest => readShorts (letter :: rest) p
  | _ => readPlain word p

/-- Reads the words of a line. Behind a word of two dashes nothing may follow. -/
def readWords : List String → Progress → Except Refusal Arguments
  | [], p => settle p
  | word :: rest, p =>
    if word = "--" then if rest.isEmpty then settle p else .error .unknownArgument
    else
      match readWord word p with
      | .error refusal => .error refusal
      | .ok p => readWords rest p

/-- Reads a command line: the arguments, and the host that they must name. A duration and a
number of attempts exclude each other. -/
def read (line : List String) : Except Refusal (Arguments × String) :=
  match readWords line ⟨.nothing, .nothing⟩ with
  | .error refusal => .error refusal
  | .ok given =>
    if given.duration.isSome && given.attempts.isSome then .error .argumentConflict
    else
      match given.host with
      | none => .error .missingRequiredArgument
      | some host => .ok (given, host)

end FleetTrial.CommandLine
