/-!
# Header fields

The name of a header field is a token of visible ASCII characters; its value holds no controls but
the tab. Names are compared and sent in lower case.
-/

namespace FleetTrial.Http

/-- The marks that a token may hold beside letters and digits. -/
def tokenMarks : List Char := "!#$%&'*+-.^_`|~".toList

/-- Whether a character may stand in a token. -/
def isTokenChar (c : Char) : Bool := c.isAlphanum || tokenMarks.contains c

/-- How many bytes the name of a header field has at most. -/
def nameLimit : Nat := 65535

/-- Whether a text is the name of a header field. -/
def isFieldName (name : String) : Bool :=
  !name.isEmpty && name.utf8ByteSize ≤ nameLimit && name.toList.all isTokenChar

/-- Whether a character may stand in the value of a header field. -/
def isFieldChar (c : Char) : Bool := (0x20 ≤ c.toNat && c.toNat != 0x7F) || c == '\t'

/-- Whether a text is the value of a header field. -/
def isFieldValue (value : String) : Bool := value.toList.all isFieldChar

/-- Whether a name and a value make a header field. -/
def isField (field : String × String) : Bool := isFieldName field.1 && isFieldValue field.2

/-- The name of a header field as it is sent. -/
def lowerName (name : String) : String := String.ofList (name.toList.map Char.toLower)

end FleetTrial.Http
