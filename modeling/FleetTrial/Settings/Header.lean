import FleetTrial.Settings.Basic
import FleetTrial.Settings.Fault
import FleetTrial.Text.Blank
import FleetTrial.Text.Split

/-!
# Custom headers

A custom header is written as a name and a value with a colon between them; the first colon
counts, and the blanks around both parts do not.
-/

namespace FleetTrial

/-- The name and the value of a written header; none if it has no colon. -/
def splitHeader (header : String) : Option (String × String) :=
  (Text.splitFirst ':' header.toList).map fun (name, value) =>
    (String.ofList (Text.trim name), String.ofList (Text.trim value))

/-- The names and values of written headers; the first header without a colon is refused. -/
def splitHeaders : List String → Except SettingsFault (List (String × String))
  | [] => .ok []
  | header :: rest =>
    match splitHeader header with
    | none => .error (.header header)
    | some pair => (splitHeaders rest).map (pair :: ·)

/-- The custom headers as names and values. -/
def Settings.customHeaders (s : Settings) : Except SettingsFault (List (String × String)) :=
  splitHeaders s.target.headers

end FleetTrial
