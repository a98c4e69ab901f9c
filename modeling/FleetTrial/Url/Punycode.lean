import FleetTrial.Text.Split

/-!
# Punycode

The text form of a domain label beyond ASCII: its ASCII characters first, then the places and
code points of the others as differences in a number system whose digit weights adapt to what
was written before.
-/

namespace FleetTrial.Url.Punycode

/-- The digit with a value below 36: the letters, then the ASCII digits. -/
def digit (n : Nat) : Char := Char.ofNat (if n < 26 then 0x61 + n else 0x30 + (n - 26))

/-- The value of a digit; letters count in either case. -/
def digit? (c : Char) : Option Nat :=
  let n := c.toNat
  if 0x61 ≤ n ∧ n ≤ 0x7A then some (n - 0x61)
  else if 0x41 ≤ n ∧ n ≤ 0x5A then some (n - 0x41)
  else if 0x30 ≤ n ∧ n ≤ 0x39 then some (n - 0x30 + 26)
  else none

/-- The least value that ends a number at the digit position `k`. -/
def threshold (k bias : Nat) : Nat := max 1 (min 26 (k - bias))

/-- Divides a difference down and counts the digit positions that this saves. -/
def shrink (delta k : Nat) : Nat × Nat :=
  if 455 < delta then shrink (delta / 35) (k + 36) else (delta, k)
termination_by delta
decreasing_by omega

/-- The bias after a difference, from the count of points written so far. -/
def adapt (delta points : Nat) (first : Bool) : Nat :=
  let halved := if first then delta / 700 else delta / 2
  let (small, k) := shrink (halved + halved / points) 0
  k + 36 * small / (small + 38)

/-- A difference as digits of the adaptive number system. -/
def digits (bias k value : Nat) : List Char :=
  let t := threshold k bias
  if value < t then [digit value]
  else digit (t + (value - t) % (36 - t)) :: digits bias (k + 36) ((value - t) / (36 - t))
termination_by value
decreasing_by
  rename_i h
  have hpos : 1 ≤ threshold k bias := by unfold threshold; omega
  have hle := Nat.div_le_self (value - threshold k bias) (36 - threshold k bias)
  omega

/-- What the encoder carries from one code point to the next. -/
structure Encoder where
  written : List Char
  delta : Nat
  bias : Nat
  points : Nat

/-- Passes one character of the label while the code point `n` is written. -/
def Encoder.visit (basic n : Nat) (e : Encoder) (c : Char) : Encoder :=
  if c.toNat < n then { e with delta := e.delta + 1 }
  else if c.toNat = n then
    { written := e.written ++ digits e.bias 36 e.delta
      delta := 0
      bias := adapt e.delta (e.points + 1) (e.points == basic)
      points := e.points + 1 }
  else e

/-- Writes the code points of an ascending list, starting from the code point `n`. -/
def encodeFrom (label : List Char) (basic : Nat) (n : Nat) (e : Encoder) : List Nat → Encoder
  | [] => e
  | m :: rest =>
    let e := { e with delta := e.delta + (m - n) * (e.points + 1) }
    let e := label.foldl (Encoder.visit basic m) e
    encodeFrom label basic (m + 1) { e with delta := e.delta + 1 } rest

/-- The Punycode of a label. -/
def encode (label : List Char) : List Char :=
  let basic := label.filter fun c => c.toNat < 0x80
  let others := (label.filter fun c => 0x80 ≤ c.toNat).map Char.toNat
  let start : Encoder := ⟨[], 0, 72, basic.length⟩
  basic ++ (if basic.isEmpty then [] else ['-']) ++
    (encodeFrom label basic.length 0x80 start (others.mergeSort).eraseDups).written

/-- The largest number that Punycode counts with. -/
def maxNumber : Nat := 0xFFFFFFFF

/-- Reads one number: its value added to `i`, and the rest; none if the count runs over. -/
def readNumber (bias : Nat) : List Char → Nat → Nat → Nat → Option (Nat × List Char)
  | [], _, _, _ => none
  | c :: rest, k, weight, i =>
    match digit? c with
    | none => none
    | some d =>
      let t := threshold k bias
      let sum := i + d * weight
      if maxNumber < sum then none
      else if d < t then some (sum, rest)
      else if maxNumber < weight * (36 - t) then none
      else readNumber bias rest (k + 36) (weight * (36 - t)) sum

/-- Reads numbers until none is left and puts their code points into `out`; the first argument
bounds the count of numbers. -/
def decodeFrom : Nat → List Char → Nat → Nat → Nat → List Char → Option (List Char)
  | 0, _, _, _, _, _ => none
  | _ + 1, [], _, _, _, out => some out
  | fuel + 1, text, n, i, bias, out =>
    match readNumber bias text 36 1 i with
    | none => none
    | some (j, rest) =>
      let size := out.length + 1
      let point := n + j / size
      if point.isValidChar then
        let place := j % size
        let next := out.take place ++ Char.ofNat point :: out.drop place
        decodeFrom fuel rest point (place + 1) (adapt (j - i) size (i == 0)) next
      else none

/-- The label of a Punycode text; `none` if it is not well formed. The ASCII characters stand
before the last hyphen, which is left out where there are none. -/
def decode (text : List Char) : Option (List Char) :=
  match Text.splitLast '-' text with
  | some ([], _) => none
  | some (basic, tail) => decodeFrom (tail.length + 1) tail 0x80 0 72 basic
  | none => decodeFrom (text.length + 1) text 0x80 0 72 []

end FleetTrial.Url.Punycode
