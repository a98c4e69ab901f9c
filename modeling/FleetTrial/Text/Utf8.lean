/-!
# Text out of bytes

Bytes are read as UTF-8. A byte that begins no character stands for the replacement character, so
that any bytes are some text.
-/

namespace FleetTrial.Text

/-- Puts the characters of the bytes from a position on behind a text. -/
def decodeFrom (bytes : ByteArray) (position : Nat) (text : String) : String :=
  if position < bytes.size then
    match bytes.utf8DecodeChar? position with
    | some c => decodeFrom bytes (position + c.utf8Size) (text.push c)
    | none => decodeFrom bytes (position + 1) (text.push '\ufffd')
  else text
termination_by bytes.size - position
decreasing_by
  · have := c.utf8Size_pos
    omega
  · omega

/-- The text of bytes. -/
def decode (bytes : ByteArray) : String := decodeFrom bytes 0 ""

end FleetTrial.Text
