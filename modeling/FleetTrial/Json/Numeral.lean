import FleetTrial.Decimal.Fixed
import FleetTrial.Json.Fault
import FleetTrial.Text.Number

/-!
# Numbers in JSON text

A number that somebody asked for is a count when it is written without sign, fraction and
exponent and fits a 64-bit word; any other number is only known to be one, and is refused when
the double nearest to it would be infinite. A number that is passed over may have any size.
-/

namespace FleetTrial.Json

/-- A number as the reader needs it. -/
inductive Numeral
  | count (n : Nat)
  | other
  deriving DecidableEq, Repr

/-- Rounds a natural number to 53 significant bits, ties to even. -/
def nearestDouble (n : Nat) : Nat :=
  let unit := Nat.pow 2 (n.log2 + 1 - 53)
  Decimal.roundDiv n unit * unit

/-- Whether `significand * 10 ^ exponent` leaves the range of doubles, computed as a product of
nearest doubles. -/
def overflowsDouble (significand : Nat) (exponent : Int) : Bool :=
  significand != 0 && 0 ≤ exponent &&
    (308 < exponent ||
      Nat.pow 2 1024 - Nat.pow 2 970 ≤
        nearestDouble significand * nearestDouble (Nat.pow 10 exponent.toNat))

/-- Ends a number that is not a count. -/
def endNumber (significand : Nat) (exponent : Int) (rest : List Char) :
    Except Fault (Numeral × List Char) :=
  if overflowsDouble significand exponent then .error .malformed else .ok (.other, rest)

/-- The digits at the start of a text. -/
def digitsOf (text : List Char) : List Char := text.takeWhile Char.isDigit

/-- What follows the digits at the start of a text. -/
def afterDigits (text : List Char) : List Char := text.dropWhile Char.isDigit

/-- The value of a run of digits. -/
def digitsValue (digits : List Char) : Nat :=
  digits.foldl (fun n c => n * 10 + (c.toNat - '0'.toNat)) 0

/-- Takes digits into a significand for as long as it fits a 64-bit word: the significand and
how many digits were taken. -/
def takeDigits (significand taken : Nat) : List Char → Nat × Nat
  | [] => (significand, taken)
  | c :: rest =>
    let next := significand * 10 + (c.toNat - '0'.toNat)
    if next ≤ Text.maxWord64 then takeDigits next (taken + 1) rest else (significand, taken)

/-- What follows the optional sign of an exponent. -/
def afterSign : List Char → List Char
  | '+' :: rest => rest
  | '-' :: rest => rest
  | text => text

/-- Reads an exponent, its letter being gone already. -/
def readExponent (significand : Nat) (start : Int) (text : List Char) :
    Except Fault (Numeral × List Char) :=
  match afterSign text with
  | [] => .error .truncated
  | c :: rest =>
    if c.isDigit then
      let e := Int.ofNat (digitsValue (digitsOf (c :: rest)))
      let exponent := if text.head? = some '-' then start - e else start + e
      endNumber significand exponent (afterDigits (c :: rest))
    else .error .malformed

/-- Reads a fraction, its point being gone already. -/
def readFraction (significand : Nat) (start : Int) (text : List Char) :
    Except Fault (Numeral × List Char) :=
  match text with
  | [] => .error .truncated
  | c :: _ =>
    if c.isDigit then
      let (value, taken) := takeDigits significand 0 (digitsOf text)
      let exponent := start - Int.ofNat taken
      match afterDigits text with
      | 'e' :: rest => readExponent value exponent rest
      | 'E' :: rest => readExponent value exponent rest
      | rest => endNumber value exponent rest
    else .error .malformed

/-- Reads a number, its minus sign being gone already where it had one. -/
def readNumber (negative : Bool) (text : List Char) : Except Fault (Numeral × List Char) :=
  let digits := digitsOf text
  match digits, text with
  | [], [] => .error .truncated
  | [], _ :: _ => .error .malformed
  | '0' :: _ :: _, _ => .error .malformed
  | _, _ =>
    let (value, taken) := takeDigits 0 0 digits
    let dropped := digits.length - taken
    match afterDigits text with
    | '.' :: rest => readFraction value dropped rest
    | 'e' :: rest => readExponent value dropped rest
    | 'E' :: rest => readExponent value dropped rest
    | rest =>
      if dropped = 0 && !negative then .ok (.count value, rest)
      else endNumber value dropped rest

/-- Passes over the digits of an exponent, its letter being gone already. -/
def skipExponent (text : List Char) : Except Fault (List Char) :=
  if (digitsOf (afterSign text)).isEmpty then .error .malformed
  else .ok (afterDigits (afterSign text))

/-- Passes over a fraction, its point being gone already. -/
def skipFraction (text : List Char) : Except Fault (List Char) :=
  if (digitsOf text).isEmpty then .error .malformed
  else
    match afterDigits text with
    | 'e' :: rest => skipExponent rest
    | 'E' :: rest => skipExponent rest
    | rest => .ok rest

/-- Passes over a number, its minus sign being gone already where it had one. -/
def skipNumber (text : List Char) : Except Fault (List Char) :=
  match digitsOf text with
  | [] => .error .malformed
  | '0' :: _ :: _ => .error .malformed
  | _ =>
    match afterDigits text with
    | '.' :: rest => skipFraction rest
    | 'e' :: rest => skipExponent rest
    | 'E' :: rest => skipExponent rest
    | rest => .ok rest

theorem afterDigits_length_le (text : List Char) : (afterDigits text).length ≤ text.length := by
  unfold afterDigits
  exact (List.dropWhile_suffix _).length_le

theorem afterDigits_length_lt {c : Char} {rest text : List Char}
    (h : digitsOf text = c :: rest) : (afterDigits text).length < text.length := by
  have hsum := congrArg List.length (List.takeWhile_append_dropWhile (p := Char.isDigit) (l := text))
  have hdigits : (text.takeWhile Char.isDigit).length = rest.length + 1 := by
    simpa [digitsOf] using congrArg List.length h
  simp only [List.length_append] at hsum
  unfold afterDigits
  omega

theorem afterSign_length_le (text : List Char) : (afterSign text).length ≤ text.length := by
  unfold afterSign
  split <;> simp

theorem skipExponent_length {text rest : List Char} (h : skipExponent text = .ok rest) :
    rest.length ≤ text.length := by
  unfold skipExponent at h
  split at h
  · simp at h
  · simp only [Except.ok.injEq] at h
    subst h
    exact Nat.le_trans (afterDigits_length_le _) (afterSign_length_le _)

theorem skipFraction_length {text rest : List Char} (h : skipFraction text = .ok rest) :
    rest.length ≤ text.length := by
  have hall := afterDigits_length_le text
  unfold skipFraction at h
  split at h
  · simp at h
  · split at h
    · rename_i inner heq
      have := skipExponent_length h
      simp only [heq, List.length_cons] at hall
      omega
    · rename_i inner heq
      have := skipExponent_length h
      simp only [heq, List.length_cons] at hall
      omega
    · simp only [Except.ok.injEq] at h
      exact h ▸ hall

theorem skipNumber_length {text rest : List Char} (h : skipNumber text = .ok rest) :
    rest.length < text.length := by
  unfold skipNumber at h
  cases hd : digitsOf text with
  | nil => simp [hd] at h
  | cons c more =>
    have hlt := afterDigits_length_lt hd
    simp only [hd] at h
    split at h
    · simp at h
    · simp at h
    · split at h
      · rename_i inner heq
        have := skipFraction_length h
        simp only [heq, List.length_cons] at hlt
        omega
      · rename_i inner heq
        have := skipExponent_length h
        simp only [heq, List.length_cons] at hlt
        omega
      · rename_i inner heq
        have := skipExponent_length h
        simp only [heq, List.length_cons] at hlt
        omega
      · simp only [Except.ok.injEq] at h
        exact h ▸ hlt

theorem endNumber_rest {significand : Nat} {exponent : Int} {text rest : List Char}
    {n : Numeral} (h : endNumber significand exponent text = .ok (n, rest)) : rest = text := by
  unfold endNumber at h
  split at h
  · simp at h
  · simp only [Except.ok.injEq, Prod.mk.injEq] at h
    exact h.2.symm

theorem readExponent_length {significand : Nat} {start : Int} {text rest : List Char}
    {n : Numeral} (h : readExponent significand start text = .ok (n, rest)) :
    rest.length ≤ text.length := by
  have hsign := afterSign_length_le text
  unfold readExponent at h
  split at h
  · simp at h
  · rename_i c more heq
    split at h
    · have := endNumber_rest h
      subst this
      rw [heq] at hsign
      exact Nat.le_trans (afterDigits_length_le _) hsign
    · simp at h

theorem readFraction_length {significand : Nat} {start : Int} {text rest : List Char}
    {n : Numeral} (h : readFraction significand start text = .ok (n, rest)) :
    rest.length ≤ text.length := by
  unfold readFraction at h
  split at h
  · simp at h
  · rename_i c more
    have hall := afterDigits_length_le (c :: more)
    split at h
    · dsimp only at h
      split at h
      · rename_i inner heq
        have := readExponent_length h
        rw [heq] at hall
        simp only [List.length_cons] at hall ⊢
        omega
      · rename_i inner heq
        have := readExponent_length h
        rw [heq] at hall
        simp only [List.length_cons] at hall ⊢
        omega
      · have := endNumber_rest h
        subst this
        exact hall
    · simp at h

theorem readNumber_length {negative : Bool} {text rest : List Char} {n : Numeral}
    (h : readNumber negative text = .ok (n, rest)) : rest.length < text.length := by
  unfold readNumber at h
  cases hd : digitsOf text with
  | nil => cases text <;> simp [hd] at h
  | cons c more =>
    have hlt := afterDigits_length_lt hd
    simp only [hd] at h
    split at h
    · simp_all
    · simp_all
    · simp at h
    · split at h
      · rename_i inner heq
        have := readFraction_length h
        simp only [heq, List.length_cons] at hlt
        omega
      · rename_i inner heq
        have := readExponent_length h
        simp only [heq, List.length_cons] at hlt
        omega
      · rename_i inner heq
        have := readExponent_length h
        simp only [heq, List.length_cons] at hlt
        omega
      · split at h
        · simp only [Except.ok.injEq, Prod.mk.injEq] at h
          exact h.2 ▸ hlt
        · have := endNumber_rest h
          exact this ▸ hlt

end FleetTrial.Json
