/-!
# Notes

A fault that has no shape of its own is a note: what was being done, and what came of it.
-/

namespace FleetTrial

/-- What went wrong in words, and the words of what gave rise to it. -/
structure Note where
  text : String
  cause : Option String
  deriving DecidableEq, Repr

/-- A note without a cause. -/
def Note.plain (text : String) : Note := ⟨text, none⟩

/-- The wording of a note: its text, and its cause behind a colon. -/
def Note.message (note : Note) : String :=
  match note.cause with
  | none => note.text
  | some cause => note.text ++ ": " ++ cause

/-- Notes that a value is missing, or that it could not be had because of `cause`. -/
def Note.refuse {α : Type} (text : String) : Except String (Option α) → Except Note α
  | .ok (some a) => .ok a
  | .ok none => .error ⟨text, none⟩
  | .error cause => .error ⟨text, some cause⟩

end FleetTrial
