import FleetTrial.Text.Composed
import FleetTrial.Text.Joining
import FleetTrial.Text.Mark
import FleetTrial.Url.Domain.Fold
import FleetTrial.Url.Punycode

/-!
# Labels of a domain

A label beyond ASCII is written in Punycode behind `xn--`, and a label that is so written must
decode to one that a domain may hold. A label is sound if it does not begin with a mark, is not
overlong, and has its joiners only where they change how it is shown.
-/

namespace FleetTrial.Url

open Text (joinsAfter joinsBefore isJoinedThrough isMark isVirama composed)

/-- Whether a character is one of ASCII. -/
def isAscii (c : Char) : Bool := c.toNat < 0x80

/-- The characters that no ASCII form of a domain may hold. -/
def isForbiddenInDomain (c : Char) : Bool :=
  c.toNat ≤ 0x20 || c.toNat == 0x7F ||
    ['#', '/', ':', '<', '>', '?', '@', '[', '\\', ']', '^', '|', '%'].contains c

/-- The character that keeps two letters from joining. -/
def nonJoiner : Char := '\u200c'

/-- The character that makes two letters join. -/
def joiner : Char := '\u200d'

/-- Whether a joiner or non-joiner has an effect between what is before it, nearest first, and
what is after it: behind a virama either has one, and a non-joiner also between letters that
would join. -/
def hasEffect (c : Char) (before after : List Char) : Bool :=
  before.head?.any isVirama ||
    (c == nonJoiner && (before.dropWhile isJoinedThrough).head?.any joinsAfter &&
      (after.dropWhile isJoinedThrough).head?.any joinsBefore)

/-- Whether every joiner and non-joiner of a label has an effect; `before` is what was passed,
nearest first. -/
def joinersHaveEffect (before : List Char) : List Char → Bool
  | [] => true
  | c :: rest =>
    ((c != nonJoiner && c != joiner) || hasEffect c before rest) &&
      joinersHaveEffect (c :: before) rest

/-- The most characters that a label beyond ASCII has. -/
def maxLabelLength : Nat := 1000

/-- The most characters that a label has behind the mark of Punycode. -/
def maxCodeLength : Nat := 2000

/-- Whether a label beyond ASCII can be shown as it stands. -/
def isSoundLabel (label : List Char) : Bool :=
  !label.head?.any isMark && joinersHaveEffect [] label && label.length ≤ maxLabelLength

/-- The mark of a label in Punycode. -/
def punycodeMark : List Char := ['x', 'n', '-', '-']

/-- A label as it is shown and as it is written in ASCII. -/
structure Label where
  shown : List Char
  ascii : List Char
  deriving DecidableEq, Repr

/-- Reads a label that is written in Punycode, which has to hold a label beyond ASCII. -/
def Label.readCode (code : List Char) : Option Label :=
  if !code.all isAscii || code.isEmpty || code.getLast? == some '-' ||
    maxCodeLength < code.length then none
  else
    match Punycode.decode code with
    | none => none
    | some shown =>
      if shown.all isKept && composed shown == shown && isSoundLabel shown then
        some ⟨shown, punycodeMark ++ code⟩
      else none

/-- Reads a label whose characters are folded and composed; none if no domain may have it. -/
def Label.read (text : List Char) : Option Label :=
  if text.any isForbiddenInDomain then none
  else if punycodeMark.isPrefixOf text then Label.readCode (text.drop punycodeMark.length)
  else if text.all isAscii then some ⟨text, text⟩
  else if isSoundLabel text then some ⟨text, punycodeMark ++ Punycode.encode text⟩
  else none

end FleetTrial.Url
