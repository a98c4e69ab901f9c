import FleetTrial.Rehearsal.Stage

/-!
# Scripted control planes

A scripted control plane answers each request by the method and path of its first line. The last
answer of a script repeats for ever, or, on a plane that hangs, a request beyond the end of its
script is never answered. Every request that is recorded moves the clock by the same step, and
crashes if the clock is broken. Beyond a number of requests nothing is recorded and nothing is
answered any more.
-/

namespace FleetTrial.Rehearsal

/-- An answer in a script. -/
inductive Line
  | snapshot (s : Snapshot)
  /-- A status that is no success, with an empty body. -/
  | status (code : Nat)
  deriving DecidableEq, Repr

/-- What a line of a script answers. -/
def Line.answer : Line → Except TrialError Snapshot
  | .snapshot s => .ok s
  | .status code => .error (.rejected code "")

/-- A control plane that follows scripts. -/
structure ControlPlane where
  /-- The scripts, each under the method and path of the requests that it answers. -/
  scripts : List (String × List Line)
  /-- Whether a request beyond the end of its script is never answered. -/
  hangs : Bool
  /-- How far each recorded request moves the clock. -/
  step : Duration
  /-- How many requests are recorded at most. -/
  limit : Nat
  clock : ManualClock
  /-- Whether a task has crashed on the clock. -/
  isClockBroken : Bool
  /-- How many requests were made. -/
  made : Nat
  /-- The recorded requests, the latest first. -/
  record : List Request

namespace ControlPlane

/-- The recorded requests in order. -/
def requests (p : ControlPlane) : List Request := p.record.reverse

/-- The script for a line. -/
def script? (key : String) (p : ControlPlane) : Option (List Line) :=
  (p.scripts.find? fun s => s.1 == key).map (·.2)

/-- Puts a new script for a line in the place of the old one. -/
def setScript (key : String) (lines : List Line) (p : ControlPlane) : ControlPlane :=
  { p with scripts := p.scripts.map fun s => if s.1 == key then (key, lines) else s }

/-- The error of a request that no script is for. -/
def unscripted (key : String) : TrialError := .rejected 404 ("no script for " ++ key)

/-- Answers a request by its script: a script is used up to its last line, or beyond it on a
plane that hangs. -/
def follow (key : String) (p : ControlPlane) : ControlPlane × Option Answer :=
  match p.script? key with
  | some (line :: rest) =>
    (if rest.isEmpty && !p.hangs then p else p.setScript key rest, some (.reply line.answer))
  | _ => (p, if p.hangs then none else some (.reply (.error (unscripted key))))

/-- Takes a request: the answer to it, unless there is never going to be one. -/
def call (r : Request) (p : ControlPlane) : ControlPlane × Option Answer :=
  let counted := { p with made := p.made + 1 }
  let recorded := { counted with record := r :: p.record }
  if p.limit ≤ p.made then (counted, none)
  else if p.isClockBroken then (recorded, some (.crashed .timeOverflow))
  else { recorded with clock := p.clock.advance p.step }.follow r.line

/-- A scripted control plane as the partner of a rehearsal, beside a collector that accepts or
refuses every connection. Neither its clock nor the run time of the program moves with the
virtual time. -/
def partner (accepting : Bool) : Partner ControlPlane where
  call := call
  accepts _ := accepting
  moment _ p := ⟨p.clock.now, p.clock.now, p.clock.unix, p.clock.unix, .zero, 0⟩
  breakClock p := { p with isClockBroken := true }

end ControlPlane

end FleetTrial.Rehearsal
