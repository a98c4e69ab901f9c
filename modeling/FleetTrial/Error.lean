import FleetTrial.Json.Fault
import FleetTrial.Settings.Fault

/-!
# Errors of a trial

The causes for which a trial, or a part of it, ends early, and their wording.
-/

namespace FleetTrial

/-- What a deadline ran out on. -/
inductive Goal
  /-- A fleet was to have `target` ready replicas and had `lastSeen`, where it said so. -/
  | fleetReady (target : UInt64) (lastSeen : Option UInt64)
  /-- All virtual users were to finish. -/
  | usersFinished
  | other (text : String)
  deriving DecidableEq, Repr

/-- The wording of a goal. -/
def Goal.text : Goal → String
  | .fleetReady target lastSeen =>
    "fleet to reach " ++ toString target.toNat ++ " ready replicas (last seen " ++
      (match lastSeen with
        | none => "none"
        | some ready => toString ready.toNat) ++ ")"
  | .usersFinished => "virtual users to finish"
  | .other text => text

/-- Why a trial ends early. -/
inductive TrialError
  /-- The settings are refused. -/
  | settings (fault : SettingsFault)
  /-- The control plane could not be asked. -/
  | transport (note : Note)
  /-- The control plane answered with a status that is no success. -/
  | rejected (status : Nat) (body : String)
  /-- A snapshot lacks a field that cannot be done without. -/
  | missingField (path : String)
  /-- A deadline passed before its goal was reached. -/
  | timedOut (goal : Goal) (elapsed : Duration)
  /-- The metrics collector could not be reached or written to. -/
  | telemetry (note : Note)
  | badUrl (fault : Url.Fault)
  /-- An answer of the control plane broke off. -/
  | brokenReply (note : Note)
  | badJson (fault : Json.Fault)
  | io (note : Note)
  deriving DecidableEq, Repr

/-- The wording of an error. -/
def TrialError.message : TrialError → String
  | .settings fault => "Configuration error: " ++ fault.message
  | .transport note => "Transport error: " ++ note.message
  | .rejected status body => "Control plane returned " ++ toString status ++ ": " ++ body
  | .missingField path => "Resource snapshot is missing field '" ++ path ++ "'"
  | .timedOut goal elapsed =>
    "Timed out after " ++ elapsed.shortText ++ " waiting for " ++ goal.text
  | .telemetry note => "Telemetry error: " ++ note.message
  | .badUrl fault => "URL parse error: " ++ fault.message
  | .brokenReply note => "HTTP request error: " ++ note.message
  | .badJson fault => "JSON serialization error: " ++ fault.message
  | .io note => "I/O error: " ++ note.message

end FleetTrial
