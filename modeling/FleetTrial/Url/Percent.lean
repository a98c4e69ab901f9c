import FleetTrial.Text.Hex

/-!
# Percent encoding

A character of an encode set is written as its UTF-8 bytes, a percent sign and two upper-case
digits each. Text that is already encoded stays as it is, because no set holds the percent sign.
-/

namespace FleetTrial.Url

/-- Control characters and everything beyond ASCII, which every set encodes. -/
def isControlOrWide (c : Char) : Bool := c.toNat ≤ 0x1F || 0x7E < c.toNat

/-- The characters encoded in a query of a special scheme. -/
def encodesInQuery (c : Char) : Bool :=
  isControlOrWide c || [' ', '"', '#', '<', '>', '\''].contains c

/-- The characters encoded in a fragment. -/
def encodesInFragment (c : Char) : Bool :=
  isControlOrWide c || [' ', '"', '<', '>', '`'].contains c

/-- The characters encoded in a path. -/
def encodesInPath (c : Char) : Bool :=
  encodesInFragment c || ['#', '?', '\x7b', '\x7d'].contains c

/-- One byte as a percent sign and two digits. -/
def percentByte (b : UInt8) : List Char :=
  ['%', Text.upperHexDigit (b.toNat / 16), Text.upperHexDigit (b.toNat % 16)]

/-- Encodes the characters that satisfy `encodes` and keeps the others. -/
def percentEncode (encodes : Char → Bool) (text : List Char) : List Char :=
  text.flatMap fun c =>
    if encodes c then (String.utf8EncodeChar c).flatMap percentByte else [c]

/-- The bytes of a text with every encoded byte put back; a percent sign without two digits
after it stands for itself. -/
def percentDecode : List Char → List UInt8
  | '%' :: a :: b :: rest =>
    match Text.hexDigit? a, Text.hexDigit? b with
    | some x, some y => UInt8.ofNat (x * 16 + y) :: percentDecode rest
    | _, _ => String.utf8EncodeChar '%' ++ percentDecode (a :: b :: rest)
  | c :: rest => String.utf8EncodeChar c ++ percentDecode rest
  | [] => []

end FleetTrial.Url
