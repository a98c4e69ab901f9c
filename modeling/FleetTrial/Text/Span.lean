import FleetTrial.Text.Hex

/-!
# Spans of code points

A property of characters is a list of closed spans of code points. It is written as text: the
ends of a span in hexadecimal with a hyphen between them, or the one code point of a span of
one, and a blank or a line break between spans.
-/

namespace FleetTrial.Text

/-- A closed span of code points. -/
structure Span where
  first : Nat
  last : Nat
  deriving DecidableEq, Repr

/-- Whether a span holds a character. -/
def Span.holds (s : Span) (c : Char) : Bool := s.first ≤ c.toNat && c.toNat ≤ s.last

/-- The words of a text, which stand apart by blanks and line breaks. -/
def words (text : String) : List (List Char) :=
  (text.toList.splitOnP fun c => c == ' ' || c == '\n').filter fun word => !word.isEmpty

/-- The number that hexadecimal digits write. -/
def hexNumber (digits : List Char) : Nat :=
  digits.foldl (fun n c => n * 16 + (hexDigit? c).getD 0) 0

/-- Reads a span: `41-5A`, or `41` for a span of one. -/
def Span.read (word : List Char) : Span :=
  let first := word.takeWhile (· != '-')
  let last := word.drop (first.length + 1)
  ⟨hexNumber first, hexNumber (if last.isEmpty then first else last)⟩

/-- Reads a list of spans. -/
def readSpans (text : String) : List Span := (words text).map Span.read

/-- Whether one of several spans holds a character. -/
def inSpans (spans : List Span) (c : Char) : Bool := spans.any fun s => s.holds c

end FleetTrial.Text
