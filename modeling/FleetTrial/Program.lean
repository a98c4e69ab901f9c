import FleetTrial.CommandLine.Line
import FleetTrial.Http.Client
import FleetTrial.Settings.Check
import FleetTrial.Settings.Summary

/-!
# The program

What the program does with a command line before its trial begins: it reads the line, turns it
into settings, checks them, prints their summary and sets up a client of the control plane. The
first of these that fails ends the program.
-/

namespace FleetTrial

/-- A trial that is ready to begin. -/
structure Plan where
  settings : Settings
  /-- What is printed before the trial begins. -/
  summary : String
  /-- The client of the control plane, or why there is none. -/
  client : Except TrialError Http.Client

/-- What a command line leads to. -/
inductive Launch
  /-- The command line was refused, or asked for information. -/
  | refused (refusal : CommandLine.Refusal)
  /-- The settings were refused. -/
  | failed (error : TrialError)
  | crashed (crash : Crash)
  | ready (plan : Plan)

/-- The settings that arguments ask for, once they have been checked. -/
def checkedSettings (given : Arguments) (host : String) : Except SettingsFault Settings :=
  match given.toSettings host with
  | .error fault => .error fault
  | .ok settings => settings.check.map fun () => settings

/-- What a command line leads to. -/
def launch (line : List String) : Launch :=
  match CommandLine.read line with
  | .error refusal => .refused refusal
  | .ok (given, host) =>
    match checkedSettings given host with
    | .error fault => .failed (.settings fault)
    | .ok settings =>
      match settings.summary with
      | .error crash => .crashed crash
      | .ok summary => .ready ⟨settings, summary, Http.Client.ofSettings settings⟩

/-- The exit code of a program whose trial ended in an error. -/
def failureCode : Nat := 1

/-- The exit code of a program that has crashed. -/
def crashCode : Nat := 101

/-- What is said of an error at the end of a program. -/
def TrialError.complaint (e : TrialError) : String := "Error: " ++ e.message

end FleetTrial
