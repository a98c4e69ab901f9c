import FleetTrial.Crash
import FleetTrial.Settings.Basic

/-!
# Sharing out the attempts

The total number of attempts is split evenly; what is left over goes one apiece to the users with
the lowest numbers. There is no split among no users.
-/

namespace FleetTrial

/-- The attempts of user `id` when `users` users make `total` attempts together. -/
def share (total users id : Nat) : Except Crash Nat :=
  if users = 0 then .error .divisionByZero
  else .ok (total / users + if id < total % users then 1 else 0)

/-- The attempts per user in words: one number, or the two that occur. -/
def shareText (total users : Nat) : Except Crash String :=
  if users = 0 then .error .divisionByZero
  else if total % users = 0 then .ok (toString (total / users))
  else .ok (toString (total / users) ++ "-" ++ toString (total / users + 1))

namespace Settings

/-- The attempts of a user, if the settings limit their number. -/
def attemptsOf (s : Settings) (id : Nat) : Except Crash (Option Nat) :=
  match s.extent.attempts with
  | none => .ok none
  | some total => (share total s.crowd.users id).map some

/-- The attempts per user in words, if the settings limit their number. -/
def attemptsPerUser (s : Settings) : Except Crash (Option String) :=
  match s.extent.attempts with
  | none => .ok none
  | some total => (shareText total s.crowd.users).map some

end Settings

end FleetTrial
