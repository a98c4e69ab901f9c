import FleetTrial.CommandLine.Usage
import FleetTrial.Http.Wire
import FleetTrial.Program
import FleetTrial.Trial.Basic
import Std.Async.DNS
import Std.Async.Signal
import Std.Async.TCP
import Std.Async.Timer
import Std.Data.HashMap
import Std.Sync.Channel
import Std.Time

/-!
# Running a trial

Runs a trial against a real control plane and real collectors. One loop owns the trial: each task
that waits has its wait carried out in the background, the outcome comes back to the loop under
the ticket of that wait, and the loop lets the task go on. An outcome whose ticket is out of date
belongs to a wait that was given up, and is dropped.
-/

open Std.Async

namespace FleetTrial

/-- A connection. -/
abbrev Socket := TCP.Socket.Client

/-- Something that happens while a trial runs. -/
inductive Happening
  /-- A wait has come to its end. -/
  | answered (role : Role) (ticket : Nat) (answer : Answer)
  /-- A connection to the collector has been opened. -/
  | opened (role : Role) (ticket : Nat) (socket : Socket)
  /-- Somebody wants the trial to end. -/
  | interrupted
  /-- It is time to show that the trial goes on. -/
  | progress

instance : Inhabited Happening := ⟨.interrupted⟩

/-- What a running trial is surrounded by. -/
structure Surroundings where
  client : Http.Client
  timeout : Duration
  /-- When the program was started. -/
  origin : Nat
  happenings : Std.Channel.Sync Happening

/-- A running trial. -/
structure Live where
  trial : Trial
  /-- The tickets of the waits that are being carried out. -/
  tickets : Std.HashMap Role Nat
  nextTicket : Nat
  /-- The users' connections to the collector. -/
  sockets : Std.HashMap Nat Socket
  /-- The last writes to connections that are being closed. -/
  farewells : List (AsyncTask Unit)

/-- Starts an action that nobody waits for. -/
def inBackground (action : Async Unit) : IO Unit := discard action.asTask

/-! ## Connections -/

/-- A pause. -/
def pauseFor (span : Duration) : Async Unit := sleep (.ofNat span.millisCovering)

/-- The outcome of an action that comes within a time. -/
def within {α : Type} (limit : Duration) (action : Async α) : Async (Option α) := do
  let timer ← Sleep.mk (.ofNat limit.millisCovering)
  let outcome ← Async.race (some <$> action) (do timer.wait; return none)
  timer.stop
  return outcome

/-- Opens a connection to the first of some addresses that accepts it. -/
def dialFirst (port : UInt16) : List Std.Net.IPAddr → Async Socket
  | [] => throw (.userError "no address")
  | address :: rest => do
    let socket ← TCP.Socket.Client.mk
    try
      socket.connect <|
        match address with
        | .v4 ip => .v4 ⟨ip, port⟩
        | .v6 ip => .v6 ⟨ip, port⟩
      socket.noDelay
      return socket
    catch e => if rest.isEmpty then throw e else dialFirst port rest

/-- Opens a connection. -/
def dial (host : String) (port : Nat) : Async Socket := do
  let addresses ← DNS.getAddrInfo host (toString port)
  dialFirst (UInt16.ofNat port) addresses.toList

/-- Opens a connection to an address of a host and a port. -/
def dialAddress (address : String) : Async Socket :=
  match Text.splitLast ':' address.toList with
  | none => throw (.userError "no port")
  | some (host, port) =>
    dial (String.ofList (host.filter fun c => c != '[' && c != ']'))
      ((Text.readUnsigned Text.maxWord16 port).toOption.getD 0)

/-- Reads from a connection until an answer can be told. -/
partial def receive (socket : Socket) (before : ByteArray) : Async (Option Http.Response) := do
  match ← socket.recv? 65536 with
  | none => return Http.Response.ofBytes? true before.toList
  | some bytes =>
    match Http.Response.ofBytes? false (before ++ bytes).toList with
    | some response => return some response
    | none => receive socket (before ++ bytes)

/-- Sends an HTTP request and reads the answer to it, if one comes. -/
def converse (o : Http.Outgoing) : Async (Option Http.Response) := do
  if o.address.schemeText != "http" then return none
  try
    let socket ← dial ((o.address.host.map Url.Host.text).getD "")
      (o.address.connectPort.getD 80)
    socket.send o.text.toUTF8
    receive socket .empty
  catch _ => return none

/-- Makes a request. -/
def ask (around : Surroundings) (r : Request) : Async (Except TrialError Snapshot) := do
  match around.client.prepare r with
  | .error e => return .error e
  | .ok outgoing =>
    match ← within around.timeout (converse outgoing) with
    | some (some response) => return response.answer r.verb
    | _ => return .error (Http.unanswered outgoing.address)

/-! ## The loop -/

/-- What a task finds around it now. -/
def takeMoment (around : Surroundings) : IO Moment := do
  let now ← IO.monoNanosNow
  let unix ← Std.Time.Timestamp.now
  let bytes ← IO.getRandomBytes 8
  let seconds := unix.toSecondsSinceUnixEpoch.val
  return {
    now := ⟨now⟩
    again := ⟨now⟩
    unix := .ok seconds
    unixAgain := .ok seconds
    wall := ⟨now - around.origin⟩
    chance := bytes.toList.foldl (fun n b => n * 256 + b.toNat) 0 }

/-- Carries out a wait that ends by itself. -/
def carryOut (around : Surroundings) (role : Role) (ticket : Nat) : Wait → Async Happening
  | .pause span => do
    pauseFor span
    return .answered role ticket .go
  | .reply request => return .answered role ticket (.reply (← ask around request))
  | .connection address =>
    try
      return .opened role ticket (← dialAddress address)
    catch e =>
      return .answered role ticket (.refused (Forwarder.unreachable address (toString e)))
  | _ => return .answered role ticket .go

/-- Whether a wait does not end by itself. -/
def isIdle : Wait → Bool
  | .others | .over => true
  | _ => false

/-- Begins a task's next wait, behind an action that comes first. -/
def beginWait (around : Surroundings) (role : Role) (first : Async Unit) (live : Live) :
    IO Live := do
  let ticket := live.nextTicket
  let live := { live with tickets := live.tickets.insert role ticket, nextTicket := ticket + 1 }
  let wait := live.trial.wait role
  if isIdle wait then
    let farewell ← first.asTask
    return { live with farewells := farewell :: live.farewells }
  inBackground do
    first
    let happening ← carryOut around role ticket wait
    around.happenings.send happening
  return live

/-- What a user's connection has received so far, in bytes. -/
def receivedBytes (trial : Trial) (id : Nat) : Nat :=
  ((trial.users[id]?.bind (·.forwarder)).map (·.received.utf8ByteSize)).getD 0

/-- How long the end of a connection is waited for. -/
def closePatience : Duration := .ofSecs 2

/-- Writes to a connection what is new on it, and closes it if the user has. -/
def catchUp (socket : Socket) (before : Nat) (forwarder : Forwarder) : Async Unit := do
  try
    let bytes := forwarder.received.toUTF8
    if before < bytes.size then socket.send (bytes.extract before bytes.size)
    unless forwarder.isOpen do discard (within closePatience socket.shutdown)
  catch _ => return ()

/-- What comes before a task's next wait: the writes of a user's last step. -/
def writes (live : Live) (before : Nat) : Role → Async Unit
  | .coordinator => return ()
  | .user id =>
    match live.sockets[id]?, live.trial.users[id]?.bind (·.forwarder) with
    | some socket, some forwarder => catchUp socket before forwarder
    | _, _ => return ()

/-- Shows on the output what has changed in a trial. -/
def showChange (around : Surroundings) (before after : Trial) : IO Unit := do
  let out ← IO.getStdout
  let waits (t : Trial) : Bool := !t.settings.verbose && t.phase matches .joining
  if !waits before && waits after then
    out.putStr "Progress: "
    out.flush
    around.happenings.send .progress
  if waits before && !waits after then out.putStrLn ""
  if before.report.isNone then out.putStr (after.report.getD "")
  out.flush

/-- Sends word when somebody wants the trial to end. -/
def listenForInterrupt (around : Surroundings) : IO Unit := do
  let waiter ← Signal.Waiter.mk .sigint true
  let signal ← waiter.wait
  inBackground do
    discard (await signal)
    around.happenings.send .interrupted

/-- Lets a task go on, and begins its next wait and those of the tasks that it has started. -/
def goOn (around : Surroundings) (role : Role) (answer : Answer) (live : Live) : IO Live := do
  let before := live.trial
  let received :=
    match role with
    | .coordinator => 0
    | .user id => receivedBytes before id
  let after := before.resume (← takeMoment around) answer role
  showChange around before after
  let mut live := { live with trial := after }
  if before.users.isEmpty && !after.users.isEmpty then listenForInterrupt around
  for id in (List.range after.users.length).drop before.users.length do
    live ← beginWait around (.user id) (return ()) live
  beginWait around role (writes live received role) live

/-- Lets all users go on that a signal has come to, and the coordinator if they were all that it
waited for. -/
def settleUsers (around : Surroundings) (live : Live) : IO Live := do
  let mut live := live
  for user in live.trial.users do
    if user.isInterrupted then live ← goOn around (.user user.id) .interrupted live
  match live.trial.phase with
  | .joining | .stopping =>
    if live.trial.allOver then goOn around .coordinator .go live else return live
  | _ => return live

/-- Goes on with something that happens. -/
def happen (around : Surroundings) (live : Live) : Happening → IO Live
  | .answered role ticket answer =>
    if live.tickets[role]? = some ticket then do
      settleUsers around (← goOn around role answer live)
    else return live
  | .opened role ticket socket =>
    if live.tickets[role]? = some ticket then do
      let live :=
        match role with
        | .coordinator => live
        | .user id => { live with sockets := live.sockets.insert id socket }
      settleUsers around (← goOn around role .connected live)
    else return live
  | .interrupted => settleUsers around { live with trial := live.trial.signalUsers }
  | .progress => do
    if live.trial.phase matches .joining then
      let out ← IO.getStdout
      out.putStr "."
      out.flush
      inBackground do
        pauseFor (.ofMillis 500)
        around.happenings.send .progress
    return live

/-- Runs a trial to its end; the exit code. -/
partial def runTrial (around : Surroundings) (live : Live) : IO Nat := do
  let finish (code : Nat) : IO Nat := do
    for farewell in live.farewells do discard (farewell.block |>.toBaseIO)
    return code
  match live.trial.phase with
  | .over (.ok ()) => finish 0
  | .over (.error e) => do
    IO.eprintln e.complaint
    finish failureCode
  | .crashed _ => finish crashCode
  | _ => do runTrial around (← happen around live (← around.happenings.recv))

/-- Carries out a plan; the exit code. -/
def carryOutPlan (plan : Plan) : IO Nat := do
  IO.print plan.summary
  match plan.client with
  | .error e => do
    IO.eprintln e.complaint
    return failureCode
  | .ok client =>
    let around : Surroundings :=
      ⟨client, plan.settings.target.timeout, ← IO.monoNanosNow, ← Std.Channel.Sync.new none⟩
    let live : Live := ⟨.create plan.settings, {}, 0, {}, []⟩
    runTrial around (← beginWait around .coordinator (return ()) live)

/-- Runs the program on a command line; the exit code. -/
def runProgram (line : List String) : IO Nat :=
  match launch line with
  | .refused refusal => do
    if refusal.exitCode = 0 then IO.print refusal.text else IO.eprint refusal.text
    return refusal.exitCode
  | .failed e => do
    IO.eprintln e.complaint
    return failureCode
  | .crashed _ => return crashCode
  | .ready plan => carryOutPlan plan

end FleetTrial

/-- Runs the program. -/
def main (line : List String) : IO UInt32 := do
  return UInt32.ofNat (← FleetTrial.runProgram line)
