import FleetTrial.Error
import FleetTrial.Http.Field
import FleetTrial.Resource.Request
import FleetTrial.Resource.Snapshot
import FleetTrial.Settings.Header
import FleetTrial.Text.Base64
import FleetTrial.Url.Address

/-!
# Requests over HTTP

A request to the control plane becomes an HTTP request: its path is resolved against the URL of
the control plane, and the custom headers go with it. The answer is taken by its status first; only
the body of a success is read as a snapshot, and only a deletion takes a missing resource for a
success.
-/

namespace FleetTrial.Http

/-- A client of a control plane. -/
structure Client where
  base : Url.Address
  /-- The custom headers as names and values. -/
  headers : List (String × String)
  deriving DecidableEq, Repr

/-- A request as it goes over the wire. -/
structure Outgoing where
  verb : Verb
  address : Url.Address
  /-- The header fields, their names in lower case. -/
  fields : List (String × String)
  body : String
  deriving DecidableEq, Repr

/-- An answer as it comes over the wire. -/
structure Response where
  status : Nat
  body : String
  /-- Whether the body ended too early. -/
  isCut : Bool
  deriving DecidableEq, Repr

/-- The client that the settings ask for. -/
def Client.ofSettings (s : Settings) : Except TrialError Client :=
  match Url.Address.parse s.target.url with
  | .error fault => .error (.badUrl fault)
  | .ok base =>
    match s.customHeaders with
    | .error fault => .error (.settings fault)
    | .ok headers => .ok ⟨base, headers⟩

/-- The error of a request that could not be made or got no answer. -/
def failure (cause : String) : TrialError :=
  .transport ⟨"Control plane request failed", some cause⟩

/-- The error of a request to a URL that got no answer. -/
def unanswered (address : Url.Address) : TrialError :=
  failure ("error sending request for url (" ++ address.text ++ ")")

/-- The header field that tells the login of a URL, if it carries one. -/
def authorization (address : Url.Address) : List (String × String) :=
  match address.login? with
  | none => []
  | some (name, password) =>
    [("authorization", "Basic " ++ Text.base64 (name ++ ":" ++ password).toUTF8.toList)]

/-- The header fields of a request: the login of its URL, the custom headers, and the type of its
body, which is JSON. -/
def Client.fields (c : Client) (address : Url.Address) (r : Request) : List (String × String) :=
  authorization address ++ c.headers.map (fun h => (lowerName h.1, h.2)) ++
    match r.body? with
    | none => []
    | some _ => [("content-type", "application/json")]

/-- The schemes that a request goes over. -/
def isHttpScheme (scheme : String) : Bool := scheme == "http" || scheme == "https"

/-- The HTTP request for a request, unless it cannot be made. -/
def Client.prepare (c : Client) (r : Request) : Except TrialError Outgoing :=
  match c.base.join r.path with
  | .error fault => .error (.badUrl fault)
  | .ok address =>
    if !c.headers.all isField then .error (failure "builder error")
    else if !isHttpScheme address.schemeText then
      .error (failure ("builder error for url (" ++ address.text ++ ")"))
    else
      .ok ⟨r.verb, address, c.fields address r, (r.body?.map Json.render).getD ""⟩

namespace Response

/-- Whether a status says that a request succeeded. -/
def isSuccess (status : Nat) : Bool := 200 ≤ status && status < 300

/-- Whether an answer with a status never has a body. -/
def isBodiless (status : Nat) : Bool := status == 204 || status == 304

/-- The body, as far as it was received whole. -/
def whole? (r : Response) : Option String :=
  if isBodiless r.status then some "" else if r.isCut then none else some r.body

/-- A text without the byte order mark in front. -/
def withoutMark (text : String) : String :=
  match text.toList with
  | '\ufeff' :: rest => String.ofList rest
  | _ => text

/-- The error of an answer that is no success; a body that broke off counts as empty. -/
def rejection (r : Response) : TrialError :=
  .rejected r.status (withoutMark (r.whole?.getD ""))

/-- The snapshot in the body of a success. -/
def snapshot (r : Response) : Except TrialError Snapshot :=
  match r.whole? with
  | none => .error (.brokenReply (.plain "error decoding response body"))
  | some body => (Snapshot.parse body).mapError .badJson

/-- What an answer means to a fetch or a creation. -/
def read (r : Response) : Except TrialError Snapshot :=
  if isSuccess r.status then r.snapshot else .error r.rejection

/-- What an answer means to a deletion: a resource that is gone already is as good as deleted. -/
def readDeleted (r : Response) : Except TrialError Snapshot :=
  if isSuccess r.status || r.status == 404 then .ok .empty else .error r.rejection

/-- What an answer means to a request. -/
def answer (verb : Verb) (r : Response) : Except TrialError Snapshot :=
  match verb with
  | .delete => r.readDeleted
  | _ => r.read

end Response

end FleetTrial.Http
