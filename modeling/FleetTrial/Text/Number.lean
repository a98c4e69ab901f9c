/-!
# Whole numbers as text

Reading a whole number accepts one optional sign and then ASCII digits only. The digits are
taken from the left, so a number that grows past its limit is refused as too large before a
later character is looked at.
-/

namespace FleetTrial.Text

/-- Why a text is not a whole number within its limit. -/
inductive NumberFault
  | empty
  | invalidDigit
  | tooLarge
  deriving DecidableEq, Repr

/-- The wording of a number fault. -/
def NumberFault.message : NumberFault → String
  | .empty => "cannot parse integer from empty string"
  | .invalidDigit => "invalid digit found in string"
  | .tooLarge => "number too large to fit in target type"

/-- The value of an ASCII digit. -/
def digit? (c : Char) : Option Nat :=
  if c.isDigit then some (c.toNat - '0'.toNat) else none

/-- Continues a number whose digits so far have the value `value`. -/
def readDigits (limit value : Nat) : List Char → Except NumberFault Nat
  | [] => .ok value
  | c :: rest =>
    match digit? c with
    | none => .error .invalidDigit
    | some d =>
      if value * 10 + d ≤ limit then readDigits limit (value * 10 + d) rest
      else .error .tooLarge

/-- Reads a number from 0 to `limit`; one leading plus sign is allowed. -/
def readUnsigned (limit : Nat) : List Char → Except NumberFault Nat
  | [] => .error .empty
  | '+' :: [] => .error .invalidDigit
  | '+' :: rest => readDigits limit 0 rest
  | text => readDigits limit 0 text

/-- Reads a number from 0 to `limit` in signed notation: a leading minus sign is allowed too,
which leaves only the zeros within the limit. -/
def readSigned (limit : Nat) : List Char → Except NumberFault Nat
  | '-' :: [] => .error .invalidDigit
  | '-' :: rest => readDigits 0 0 rest
  | text => readUnsigned limit text

/-- The largest value of an unsigned 64-bit word. -/
def maxWord64 : Nat := Nat.pow 2 64 - 1

/-- A number that fits a 64-bit word is the value of its word. -/
theorem toNat_word {n : Nat} (hn : n ≤ maxWord64) : (UInt64.ofNat n).toNat = n :=
  UInt64.toNat_ofNat_of_lt' (Nat.lt_of_le_of_lt hn (by decide))

/-- The largest value of an unsigned 32-bit word. -/
def maxWord32 : Nat := Nat.pow 2 32 - 1

/-- The largest value of an unsigned 16-bit word. -/
def maxWord16 : Nat := Nat.pow 2 16 - 1

end FleetTrial.Text
