/-!
# Columns of a table

Padding with spaces to a width that counts characters. A text that is already wider is left
as it is.
-/

namespace FleetTrial.Text

/-- As many spaces as a text of `used` characters lacks to a column of `width`. -/
def gap (width used : Nat) : String :=
  String.ofList (List.replicate (width - used) ' ')

/-- The text at the left end of a column. -/
def padRight (width : Nat) (text : String) : String :=
  text ++ gap width text.length

/-- The text at the right end of a column. -/
def padLeft (width : Nat) (text : String) : String :=
  gap width text.length ++ text

end FleetTrial.Text
