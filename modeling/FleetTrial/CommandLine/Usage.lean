import FleetTrial.CommandLine.Entry

/-!
# What the program says of its command line

The list of all options, its version, and a line about what was wrong with a command line.
-/

namespace FleetTrial.CommandLine

/-- How an option is spelled. -/
def Entry.spelling (e : Entry) : String :=
  (match e.short with
    | none => "    "
    | some letter => "-" ++ String.singleton letter ++ ", ") ++
  "--" ++ e.long ++
  match e.effect with
  | .value _ => " <VALUE>"
  | _ => ""

/-- The list of all options. -/
def usage : String :=
  "Measures how fast a control plane allocates game servers\n\n" ++
    "Usage: fleet-trial [OPTIONS] --host <VALUE>\n\nOptions:\n" ++
    String.join (entries.map fun e => "  " ++ e.spelling ++ "\n")

/-- The version of the program. -/
def version : String := "fleet-trial 0.1.0\n"

/-- What is said of a refused command line. -/
def Refusal.text : Refusal → String
  | .displayHelp => usage
  | .displayVersion => version
  | .missingRequiredArgument => "error: --host <VALUE> is missing\n"
  | .unknownArgument => "error: an argument is not known\n"
  | .invalidValue => "error: the value of an option is missing\n"
  | .valueValidation => "error: the value of an option is out of its range\n"
  | .argumentConflict => "error: two arguments exclude each other\n"
  | .tooManyValues => "error: a switch takes no value\n"

end FleetTrial.CommandLine
