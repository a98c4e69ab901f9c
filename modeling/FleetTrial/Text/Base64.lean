/-!
# Base64

Three bytes are written as four characters of six bits each; what is missing from the last three
bytes is filled up with the padding character.
-/

namespace FleetTrial.Text

/-- The character for six bits. -/
def sextetChar (n : Nat) : Char :=
  if n < 26 then Char.ofNat ('A'.toNat + n)
  else if n < 52 then Char.ofNat ('a'.toNat + (n - 26))
  else if n < 62 then Char.ofNat ('0'.toNat + (n - 52))
  else if n = 62 then '+'
  else '/'

/-- The first `count` of the four characters for 24 bits. -/
def sextets (count bits : Nat) : List Char :=
  ([3, 2, 1, 0].take count).map fun place => sextetChar (bits / Nat.pow 64 place % 64)

/-- The characters for bytes. -/
def base64Chars : List UInt8 → List Char
  | a :: b :: c :: rest =>
    sextets 4 (a.toNat * 65536 + b.toNat * 256 + c.toNat) ++ base64Chars rest
  | [a, b] => sextets 3 (a.toNat * 65536 + b.toNat * 256) ++ ['=']
  | [a] => sextets 2 (a.toNat * 65536) ++ ['=', '=']
  | [] => []

/-- Bytes as text. -/
def base64 (bytes : List UInt8) : String := String.ofList (base64Chars bytes)

end FleetTrial.Text
