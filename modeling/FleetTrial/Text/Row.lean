import FleetTrial.Text.Column

/-!
# Rows of a report

A row shows what a value is called, in a column of its own, and the value.
-/

namespace FleetTrial.Text

/-- The width of the column of names, the colon behind a name included. -/
def rowWidth : Nat := 18

/-- A row of a report. -/
def row (name value : String) : String :=
  "   " ++ padRight rowWidth (name ++ ":") ++ value

/-- Lines as one text, each with its line end. -/
def unlines (lines : List String) : String :=
  String.join (lines.map (· ++ "\n"))

end FleetTrial.Text
