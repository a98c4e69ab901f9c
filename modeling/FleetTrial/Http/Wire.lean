import FleetTrial.Http.Client
import FleetTrial.Text.Hex
import FleetTrial.Text.Utf8

/-!
# HTTP on the wire

The bytes of a request, and the reading of an answer while its bytes come in. A request asks for
its connection to be closed behind the answer. An answer begins with a head, which an empty line
ends; its fields tell where the body ends, and if none does the connection's end is the body's.
-/

namespace FleetTrial.Http

/-- The ends of the lines of a head. -/
def lineEnd : String := "\r\n"

namespace Outgoing

/-- The header fields that a request has unless it brings them itself. -/
def usualFields (o : Outgoing) : List (String × String) :=
  [("accept", "*/*"), ("host", o.address.authority), ("connection", "close")] ++
    if o.body.isEmpty then [] else [("content-length", toString o.body.utf8ByteSize)]

/-- All header fields of a request. -/
def allFields (o : Outgoing) : List (String × String) :=
  o.fields ++ o.usualFields.filter fun usual => o.fields.all fun field => field.1 != usual.1

/-- The request line. -/
def requestLine (o : Outgoing) : String :=
  o.verb.method ++ " " ++ o.address.target ++ " HTTP/1.1"

/-- A request as text. -/
def text (o : Outgoing) : String :=
  o.requestLine ++ lineEnd ++
    String.join (o.allFields.map fun field => field.1 ++ ": " ++ field.2 ++ lineEnd) ++
    lineEnd ++ o.body

end Outgoing

/-- The head of an answer. -/
structure Head where
  status : Nat
  /-- The header fields, their names in lower case. -/
  fields : List (String × String)
  deriving DecidableEq, Repr

/-- The bytes before and behind the first empty line. -/
def splitHead : List UInt8 → Option (List UInt8 × List UInt8)
  | [] => none
  | 13 :: 10 :: 13 :: 10 :: rest => some ([], rest)
  | b :: rest => (splitHead rest).map fun (head, body) => (b :: head, body)

/-- The text of some bytes. -/
def textOf (bytes : List UInt8) : String := Text.decode ⟨bytes.toArray⟩

/-- The status in the first line of a head. -/
def readStatus (line : String) : Option Nat :=
  match line.splitOn " " with
  | _ :: status :: _ => (Text.readDigits 999 0 status.toList).toOption
  | _ => none

/-- A line of a head as a header field; none if it has no colon. -/
def readField (line : String) : Option (String × String) :=
  (Text.splitFirst ':' line.toList).map fun (name, value) =>
    (lowerName (String.ofList name), String.ofList (Text.trim value))

namespace Head

/-- Reads a head. -/
def read (bytes : List UInt8) : Option Head :=
  match (textOf bytes).splitOn lineEnd with
  | [] => none
  | first :: lines => (readStatus first).map fun status => ⟨status, lines.filterMap readField⟩

/-- The value of a header field. -/
def value? (name : String) (h : Head) : Option String :=
  (h.fields.find? fun field => field.1 == name).map (·.2)

end Head

/-- How much of a body has come. -/
inductive Arrival
  | whole (body : List UInt8)
  /-- More is to come, unless the connection has ended. -/
  | unfinished (body : List UInt8)
  /-- Everything up to the end of the connection belongs to the body. -/
  | untilEnd (body : List UInt8)
  deriving DecidableEq, Repr

/-- The number of bytes in a chunk; what follows a semicolon does not count. -/
def chunkSize (line : List UInt8) : Option Nat :=
  let digits := (textOf line).toList.takeWhile (· != ';')
  if digits.isEmpty then none
  else (Text.trim digits).foldlM (fun value c => (Text.hexDigit? c).map (value * 16 + ·)) 0

/-- Reads a body that comes in chunks, each behind a line with its size; a chunk without bytes
is the last one. -/
def readChunks (bytes before : List UInt8) : Arrival :=
  let line := bytes.takeWhile (· != 13)
  let rest := bytes.drop (line.length + 2)
  match chunkSize line with
  | none => .unfinished before
  | some 0 => .whole before
  | some (n + 1) =>
    if rest.length < n + 3 then .unfinished before
    else readChunks (rest.drop (n + 3)) (before ++ rest.take (n + 1))
termination_by bytes.length
decreasing_by
  have hrest : rest.length ≤ bytes.length := by simp [rest]
  simp only [List.length_drop]
  omega

/-- How much of the body behind a head has come. -/
def Head.arrival (bytes : List UInt8) (h : Head) : Arrival :=
  if Response.isBodiless h.status then .whole []
  else if (h.value? "transfer-encoding").any fun coding => lowerName coding == "chunked" then
    readChunks bytes []
  else
    match (h.value? "content-length").bind (·.toNat?) with
    | none => .untilEnd bytes
    | some n => if bytes.length < n then .unfinished bytes else .whole (bytes.take n)

/-- The answer in the bytes that have come so far, if it can be told yet. -/
def Response.ofBytes? (ended : Bool) (bytes : List UInt8) : Option Response := do
  let (head, rest) ← splitHead bytes
  let head ← Head.read head
  match head.arrival rest with
  | .whole body => some ⟨head.status, textOf body, false⟩
  | .unfinished body => if ended then some ⟨head.status, textOf body, true⟩ else none
  | .untilEnd body => if ended then some ⟨head.status, textOf body, false⟩ else none

end FleetTrial.Http
