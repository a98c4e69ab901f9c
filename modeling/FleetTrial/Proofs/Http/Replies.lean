import FleetTrial.Rehearsal.WebServer

/-!
# What replies mean

A reply that has come whole is a status and a body. A fetch and a creation want a success with a
snapshot in its body. They tell any other reply apart by its status first, and only then by its
body. A deletion wants a success or the status of a missing resource, and does not look at the body.
-/

namespace FleetTrial.Http

/-- A reply that has come whole. -/
structure Reply where
  status : Nat
  body : String
  deriving DecidableEq, Repr

namespace Reply

/-- A reply as it comes over the wire. -/
def response (r : Reply) : Response := ⟨r.status, r.body, false⟩

/-- The body as it is received. No body comes with the statuses that never have one. -/
def content (r : Reply) : String := if Response.isBodiless r.status then "" else r.body

/-- The body as a text, which a byte order mark in front is no part of. -/
def text (r : Reply) : String := Response.withoutMark r.content

/-- Whether the status says that the request succeeded. -/
def IsSuccess (r : Reply) : Prop := 200 ≤ r.status ∧ r.status < 300

instance (r : Reply) : Decidable r.IsSuccess := inferInstanceAs (Decidable (_ ∧ _))

/-- The error of a reply that is no success. -/
def refusal (r : Reply) : TrialError := .rejected r.status r.text

variable {r : Reply} {s : Snapshot} {fault : Json.Fault}

theorem isSuccess_iff : Response.isSuccess r.status = true ↔ r.IsSuccess := by
  rw [Response.isSuccess, Bool.and_eq_true, decide_eq_true_eq, decide_eq_true_eq, IsSuccess]

/-- All of a whole reply is there. -/
theorem whole?_response (r : Reply) : r.response.whole? = some r.content := by
  unfold Response.whole? content response
  split <;> rfl

/-- A text without a byte order mark in front stays as it is. -/
theorem withoutMark_eq_self {text : String} (hmark : text.toList.head? ≠ some '\ufeff') :
    Response.withoutMark text = text := by
  unfold Response.withoutMark
  split
  · rename_i rest htext
    rw [htext] at hmark
    exact absurd rfl hmark
  · rfl

/-- A body is received as it is unless its status never has one. -/
theorem content_eq_body (hbody : Response.isBodiless r.status = false) : r.content = r.body := by
  simp only [content, hbody, Bool.false_eq_true, if_false]

/-- A body without a byte order mark in front is its own text. -/
theorem text_eq_body (hbody : Response.isBodiless r.status = false)
    (hmark : r.body.toList.head? ≠ some '\ufeff') : r.text = r.body := by
  rw [text, content_eq_body hbody, withoutMark_eq_self hmark]

/-- A reply that is no success is an error with its status and its text. -/
theorem read_of_not_isSuccess (hstatus : ¬ r.IsSuccess) :
    r.response.read = .error r.refusal := by
  have hstatus' : ¬ Response.isSuccess r.response.status = true := mt isSuccess_iff.mp hstatus
  rw [Response.read, if_neg hstatus', Response.rejection, whole?_response]
  rfl

/-- A success means what its body says. -/
theorem read_of_isSuccess (hstatus : r.IsSuccess) :
    r.response.read = (Snapshot.parse r.content).mapError .badJson := by
  have hstatus' : Response.isSuccess r.response.status = true := isSuccess_iff.mpr hstatus
  rw [Response.read, if_pos hstatus', Response.snapshot, whole?_response]

/-- A reply brings a snapshot exactly if it is a success with that snapshot in its body. -/
theorem read_eq_ok_iff :
    r.response.read = .ok s ↔ r.IsSuccess ∧ Snapshot.parse r.content = .ok s := by
  by_cases hstatus : r.IsSuccess
  · rw [read_of_isSuccess hstatus]
    cases Snapshot.parse r.content with
    | error fault =>
      refine ⟨fun hread => ?_, fun hread => ?_⟩
      · cases hread
      · cases hread.2
    | ok found =>
      refine ⟨fun hread => ⟨hstatus, ?_⟩, fun hread => ?_⟩
      · cases hread
        rfl
      · cases hread.2
        rfl
  · rw [read_of_not_isSuccess hstatus]
    refine ⟨fun hread => ?_, fun hread => absurd hread.1 hstatus⟩
    cases hread

/-- A success whose body is no snapshot is an error of its own kind. -/
theorem read_of_unreadable (hstatus : r.IsSuccess)
    (hbody : Snapshot.parse r.content = .error fault) :
    r.response.read = .error (.badJson fault) := by
  rw [read_of_isSuccess hstatus, hbody]
  rfl

/-- A deletion is done with a success or a missing resource, whatever the body. -/
theorem readDeleted_response (r : Reply) :
    r.response.readDeleted =
      if r.IsSuccess ∨ r.status = 404 then .ok .empty else .error r.refusal := by
  have hstatus : (Response.isSuccess r.status || r.status == 404) = true ↔
      r.IsSuccess ∨ r.status = 404 := by
    rw [Bool.or_eq_true, isSuccess_iff, beq_iff_eq]
  unfold Response.readDeleted
  refine ite_congr (propext hstatus) (fun _ => rfl) fun _ => ?_
  rw [Response.rejection, whole?_response]
  rfl

end Reply

/-- What a request comes to, if it gets this reply when it can be made. -/
def Client.ask (c : Client) (request : Request) (r : Response) : Except TrialError Snapshot :=
  match c.prepare request with
  | .error e => .error e
  | .ok _ => r.answer request.verb

/-- Whether a client can make a request. -/
def Client.CanMake (c : Client) (request : Request) : Prop := ∃ out, c.prepare request = .ok out

namespace Client

variable {c : Client} {request : Request} {s : Snapshot}

/-- A request that can be made comes to what its reply means. -/
theorem CanMake.ask_eq (hmade : c.CanMake request) (r : Response) :
    c.ask request r = r.answer request.verb := by
  obtain ⟨out, hout⟩ := hmade
  rw [ask, hout]

/-- A fetch and a creation read their reply. -/
theorem CanMake.ask_eq_read (hmade : c.CanMake request) (hverb : request.verb ≠ .delete)
    (r : Response) : c.ask request r = r.read := by
  rw [hmade.ask_eq]
  cases request with
  | fetch path | create path body => rfl
  | delete path => exact absurd rfl hverb

/-- Whether a client tells what a reply to a request means: a snapshot is what a success has in its
body, and any other reply is an error, of one kind by its status and of another by its body. -/
structure TellsApart (c : Client) (request : Request) (r : Reply) : Prop where
  taken : ∀ s, c.ask request r.response = .ok s ↔ r.IsSuccess ∧ Snapshot.parse r.content = .ok s
  refused : ¬ r.IsSuccess → c.ask request r.response = .error (.rejected r.status r.text)
  unreadable : ∀ fault, r.IsSuccess → Snapshot.parse r.content = .error fault →
    c.ask request r.response = .error (.badJson fault)

/-- A fetch and a creation tell their replies apart. -/
theorem CanMake.tellsApart (hmade : c.CanMake request) (hverb : request.verb ≠ .delete)
    (r : Reply) : c.TellsApart request r where
  taken s := by rw [hmade.ask_eq_read hverb, Reply.read_eq_ok_iff]
  refused hstatus := by
    rw [hmade.ask_eq_read hverb, Reply.read_of_not_isSuccess hstatus]
    rfl
  unreadable fault hstatus hbody := by
    rw [hmade.ask_eq_read hverb, Reply.read_of_unreadable hstatus hbody]

/-- Only a request that can be made brings a snapshot. -/
theorem canMake_of_ask_eq_ok {r : Response} (hask : c.ask request r = .ok s) :
    c.CanMake request := by
  unfold ask at hask
  split at hask
  · cases hask
  · rename_i out hout
    exact ⟨out, hout⟩

end Client

end FleetTrial.Http

namespace FleetTrial.Rehearsal.WebServer

/-- A server that is reached has a request come to what its next reply for it means. -/
theorem call_eq_ask {s : WebServer} {request : Request} {out : Http.Outgoing}
    (hout : s.client.prepare request = .ok out) (hreaches : s.reaches out = true) :
    (s.call request).2 = s.client.ask request (take (lineOf out) s.routes).2 := by
  simp only [call, hout, hreaches, if_true, Http.Client.ask]

end FleetTrial.Rehearsal.WebServer
