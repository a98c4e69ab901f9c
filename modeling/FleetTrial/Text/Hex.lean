/-!
# Hexadecimal digits

The value of a hexadecimal digit in either case, and the digits of a byte.
-/

namespace FleetTrial.Text

/-- The value of a hexadecimal digit of either case. -/
def hexDigit? (c : Char) : Option Nat :=
  let n := c.toNat
  if 0x30 ≤ n ∧ n ≤ 0x39 then some (n - 0x30)
  else if 0x41 ≤ n ∧ n ≤ 0x46 then some (n - 0x41 + 10)
  else if 0x61 ≤ n ∧ n ≤ 0x66 then some (n - 0x61 + 10)
  else none

/-- The upper-case hexadecimal digit of a value below 16. -/
def upperHexDigit (n : Nat) : Char := Char.ofNat (if n < 10 then 0x30 + n else 0x41 + (n - 10))

/-- The lower-case hexadecimal digit of a value below 16. -/
def lowerHexDigit (n : Nat) : Char := Char.ofNat (if n < 10 then 0x30 + n else 0x61 + (n - 10))

/-- A 64-bit word as 16 lower-case hexadecimal digits. -/
def hexWord (w : UInt64) : String :=
  String.ofList ((List.range 16).reverse.map fun i => lowerHexDigit (w.toNat / Nat.pow 16 i % 16))

end FleetTrial.Text
