import FleetTrial.Json.Value

/-!
# Requests to the control plane

A resource is fetched, created or deleted at a path below the control plane's address. Only a
creation carries a body.
-/

namespace FleetTrial

/-- What is done to a resource. -/
inductive Verb
  | get
  | post
  | delete
  deriving DecidableEq, Repr

/-- The method that stands for a verb. -/
def Verb.method : Verb → String
  | .get => "GET"
  | .post => "POST"
  | .delete => "DELETE"

/-- One request. -/
inductive Request
  | fetch (path : String)
  | create (path : String) (body : Json)
  | delete (path : String)
  deriving Repr

namespace Request

/-- The verb of a request. -/
def verb : Request → Verb
  | fetch _ => .get
  | create _ _ => .post
  | delete _ => .delete

/-- The path of a request. -/
def path : Request → String
  | fetch path => path
  | create path _ => path
  | delete path => path

/-- The body of a request, if it carries one. -/
def body? : Request → Option Json
  | create _ body => some body
  | _ => none

/-- The method and the path of a request in one line. -/
def line (r : Request) : String := r.verb.method ++ " " ++ r.path

end Request

end FleetTrial
