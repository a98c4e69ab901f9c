import FleetTrial.Url.Domain.Direction
import FleetTrial.Url.Domain.Label

/-!
# Domain names

A domain is brought into its ASCII form: its characters are folded and composed, its labels are
read one by one, and each of them is written in ASCII. A name with a character or a label that
no domain may hold has no such form.
-/

namespace FleetTrial.Url

/-- The labels of a text, which stand apart by full stops. -/
def labelTexts (text : List Char) : List (List Char) := text.splitOn '.'

/-- The text of a domain from the texts of its labels. -/
def joinLabels (labels : List (List Char)) : List Char := (['.'] : List Char).intercalate labels

/-- Whether a domain in lower case is its own ASCII form, if it has one: no character is beyond
ASCII and no label is in Punycode. -/
def isPlainDomain (domain : List Char) : Bool :=
  domain.all isAscii && (labelTexts domain).all fun label => !punycodeMark.isPrefixOf label

/-- Reads the labels of a domain; none if a label is not sound or they would mix when shown. -/
def readLabels (domain : List Char) : Option (List Label) := do
  let folded ← domain.mapM foldChar
  let labels ← (labelTexts (Text.composed folded.flatten)).mapM Label.read
  if labelsKeepApart (labels.map (·.shown)) then some labels else none

/-- The ASCII form of a domain; none if it has none. -/
def domainToAscii (domain : List Char) : Option (List Char) :=
  let lower := domain.map Char.toLower
  if isPlainDomain lower then if lower.any isForbiddenInDomain then none else some lower
  else (readLabels domain).map fun labels => joinLabels (labels.map (·.ascii))

end FleetTrial.Url
