import FleetTrial.Http.Client
import FleetTrial.Rehearsal.Stage

/-!
# Web servers for rehearsals

A web server answers HTTP requests by routes, each for one line of method and target or for any.
The last answer of a route repeats for ever, and a request without a route gets a fixed answer.
Requests to anywhere else than the server find nobody.
-/

namespace FleetTrial.Rehearsal

/-- Answers to requests with a line, or with any line. -/
structure Route where
  line : Option String
  replies : List Http.Response
  deriving Repr

/-- A web server, together with the client that talks to it. -/
structure WebServer where
  client : Http.Client
  /-- Where the server listens, if it does. -/
  origin : Option Url.Address
  routes : List Route
  /-- The requests that the server saw, the latest first. -/
  record : List Http.Outgoing

namespace WebServer

/-- The requests that the server saw, in order. -/
def requests (s : WebServer) : List Http.Outgoing := s.record.reverse

/-- The method and the target of a request in one line. -/
def lineOf (o : Http.Outgoing) : String := o.verb.method ++ " " ++ o.address.target

/-- Whether a request goes to the server. -/
def reaches (s : WebServer) (o : Http.Outgoing) : Bool :=
  s.origin.any fun origin =>
    origin.host == o.address.host && origin.connectPort == o.address.connectPort

/-- The answer to a request that there is no route for. -/
def noRoute : Http.Response := ⟨404, "no route", false⟩

/-- Takes the next answer for a line off the routes. -/
def take (line : String) : List Route → List Route × Http.Response
  | [] => ([], noRoute)
  | route :: rest =>
    if route.line.all (· == line) then
      match route.replies with
      | [] => (route :: rest, noRoute)
      | [reply] => (route :: rest, reply)
      | reply :: more => ({ route with replies := more } :: rest, reply)
    else
      let (after, reply) := take line rest
      (route :: after, reply)

/-- Takes a request over HTTP. -/
def call (r : Request) (s : WebServer) : WebServer × Except TrialError Snapshot :=
  match s.client.prepare r with
  | .error e => (s, .error e)
  | .ok o =>
    if s.reaches o then
      let (routes, reply) := take (lineOf o) s.routes
      ({ s with routes, record := o :: s.record }, reply.answer r.verb)
    else (s, .error (Http.unanswered o.address))

/-- A web server as the partner of a rehearsal, beside collectors at some addresses. All clocks go
with the virtual time. -/
def partner (collectors : List String) : Partner WebServer where
  call r s :=
    let (server, result) := s.call r
    (server, some (.reply result))
  accepts address := collectors.contains address
  moment time _ :=
    let now : Instant := ⟨(Duration.ofMillis time).nanos⟩
    ⟨now, now, .ok 0, .ok 0, .ofMillis time, 0⟩
  breakClock s := s

end WebServer

end FleetTrial.Rehearsal
