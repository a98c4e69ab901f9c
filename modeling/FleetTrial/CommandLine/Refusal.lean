/-!
# Refusals of a command line

What ends the reading of a command line early: a mistake in it, or a request for information.
-/

namespace FleetTrial.CommandLine

/-- What ends the reading of a command line early. -/
inductive Refusal
  | missingRequiredArgument
  | unknownArgument
  /-- A value that is not there. -/
  | invalidValue
  /-- A value that the option does not take. -/
  | valueValidation
  /-- Two options that exclude each other, or one that stands twice. -/
  | argumentConflict
  /-- A value for a switch. -/
  | tooManyValues
  | displayHelp
  | displayVersion
  deriving DecidableEq, Repr

/-- The name of a kind of refusal. -/
def Refusal.name : Refusal → String
  | .missingRequiredArgument => "MissingRequiredArgument"
  | .unknownArgument => "UnknownArgument"
  | .invalidValue => "InvalidValue"
  | .valueValidation => "ValueValidation"
  | .argumentConflict => "ArgumentConflict"
  | .tooManyValues => "TooManyValues"
  | .displayHelp => "DisplayHelp"
  | .displayVersion => "DisplayVersion"

/-- The exit code of a program that was refused its command line; asking for information is
no failure. -/
def Refusal.exitCode : Refusal → Nat
  | .displayHelp => 0
  | .displayVersion => 0
  | _ => 2

end FleetTrial.CommandLine
