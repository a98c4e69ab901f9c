/-!
# Fixed-place text of a double

A finite double is an exact fraction with a power of two below it. Its text with a fixed number
of decimal places is that fraction rounded to the nearest multiple of the last place, a tie
going to the even neighbour.
-/

namespace FleetTrial.Decimal

/-- A finite double as `mantissa * 2 ^ exponent`, or what it is instead. -/
inductive Parts
  | finite (negative : Bool) (mantissa : Nat) (exponent : Int)
  | infinite (negative : Bool)
  | notANumber

/-- Takes the bits of a double apart: 1 bit of sign, 11 of exponent, 52 of fraction. -/
def Parts.ofBits (bits : UInt64) : Parts :=
  let word := bits.toNat
  let negative := word / Nat.pow 2 63 == 1
  let exponent := word / Nat.pow 2 52 % Nat.pow 2 11
  let fraction := word % Nat.pow 2 52
  if exponent = 2047 then if fraction = 0 then .infinite negative else .notANumber
  else if exponent = 0 then .finite negative fraction (-1074)
  else .finite negative (Nat.pow 2 52 + fraction) (Int.ofNat exponent - 1075)

/-- The quotient of two natural numbers rounded to nearest, ties to even. -/
def roundDiv (num den : Nat) : Nat :=
  let q := num / den
  let r := num % den
  if 2 * r < den then q
  else if den < 2 * r then q + 1
  else if q % 2 = 0 then q else q + 1

/-- `mantissa * 2 ^ exponent` in units of the last of `places` decimal places. -/
def scaled (places mantissa : Nat) (exponent : Int) : Nat :=
  if 0 ≤ exponent then mantissa * Nat.pow 2 exponent.toNat * Nat.pow 10 places
  else roundDiv (mantissa * Nat.pow 10 places) (Nat.pow 2 (-exponent).toNat)

/-- A count of units of the last place, written with its decimal point. -/
def placesText (places units : Nat) : String :=
  let digits := Nat.toDigits 10 (units % Nat.pow 10 places)
  let fraction := List.replicate (places - digits.length) '0' ++ digits
  if places = 0 then toString units
  else toString (units / Nat.pow 10 places) ++ "." ++ String.ofList fraction

/-- The text of a double with a fixed number of decimal places. -/
def fixed (places : Nat) (x : Float) : String :=
  match Parts.ofBits x.toBits with
  | .notANumber => "NaN"
  | .infinite negative => if negative then "-inf" else "inf"
  | .finite negative mantissa exponent =>
    (if negative then "-" else "") ++ placesText places (scaled places mantissa exponent)

end FleetTrial.Decimal
