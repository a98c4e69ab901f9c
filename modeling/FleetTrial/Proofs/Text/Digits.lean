import FleetTrial.Text.Number

/-!
# What the reading of a whole number accepts

A whole number is written in digits, behind a sign if it is negative. It is read if it is a run of
digits with or without a plus sign in front and its value is within the limit, and nothing else is.
The digits are read from the left and the limit is looked at behind each of them, which is no
stricter than to look at it once in the end: more digits make no smaller number.
-/

namespace FleetTrial

/-- Only digits stand in a number. -/
theorem not_mem_repr {c : Char} (hdigit : c.isDigit = false) (n : Nat) : c ∉ n.repr.toList := by
  intro hmem
  have hmem' : c.isDigit = true :=
    Nat.isDigit_of_mem_toDigits (by decide) (by decide) (String.toList_ofList ▸ hmem)
  rw [hdigit] at hmem'
  cases hmem'

/-- Only digits and a sign stand in a number that may be negative. -/
theorem not_mem_toString {c : Char} (hdigit : c.isDigit = false) (hsign : c ≠ '-') (i : Int) :
    c ∉ (toString i).toList := by
  cases i with
  | ofNat n => exact not_mem_repr hdigit n
  | negSucc n =>
    have htext : (toString (Int.negSucc n)).toList = '-' :: (n + 1).repr.toList :=
      String.toList_append
    rw [htext, List.mem_cons, not_or]
    exact ⟨hsign, not_mem_repr hdigit (n + 1)⟩

namespace Text

variable {limit value n : Nat} {text digits : List Char} {c : Char}

/-- More digits make no smaller number. -/
theorem le_ofDigitChars (digits : List Char) (value : Nat) :
    value ≤ Nat.ofDigitChars 10 digits value := by
  induction digits generalizing value with
  | nil => exact Nat.le_refl value
  | cons c digits ih =>
    have hnext := ih (10 * value + (c.toNat - '0'.toNat))
    rw [Nat.ofDigitChars_cons]
    omega

/-- The value of a digit. -/
theorem digit?_of_isDigit (hc : c.isDigit = true) : digit? c = some (c.toNat - '0'.toNat) :=
  if_pos hc

/-- What is no digit has no value. -/
theorem digit?_eq_none (hc : ¬ c.isDigit = true) : digit? c = none := if_neg hc

/-- A run of digits is read as the number that it makes, if that is within the limit, and nothing
else is read. -/
theorem readDigits_eq_ok_iff (hvalue : value ≤ limit) :
    readDigits limit value text = .ok n ↔
      (∀ c ∈ text, c.isDigit = true) ∧ n = Nat.ofDigitChars 10 text value ∧ n ≤ limit := by
  induction text generalizing value with
  | nil =>
    simp only [readDigits, Except.ok.injEq, Nat.ofDigitChars_nil, List.not_mem_nil, false_imp_iff,
      implies_true, true_and]
    constructor
    · rintro rfl
      exact ⟨rfl, hvalue⟩
    · rintro ⟨rfl, _⟩
      rfl
  | cons c rest ih =>
    by_cases hc : c.isDigit = true
    · have hcomm : 10 * value + (c.toNat - '0'.toNat) = value * 10 + (c.toNat - '0'.toNat) := by
        omega
      simp only [readDigits, digit?_of_isDigit hc, List.forall_mem_cons, hc, true_and,
        Nat.ofDigitChars_cons, hcomm]
      split
      · exact ih ‹_›
      · rename_i hlarge
        constructor
        · nofun
        · rintro ⟨_, rfl, hn⟩
          exact absurd (Nat.le_trans (le_ofDigitChars rest _) hn) hlarge
    · simp only [readDigits, digit?_eq_none hc, List.forall_mem_cons, hc]
      exact ⟨nofun, nofun⟩

/-- The sign that a number may have in front. -/
def plusSign (signed : Bool) : List Char := if signed then ['+'] else []

/-- A number that begins with a digit is read without a sign. -/
theorem readUnsigned_of_isDigit (hc : c.isDigit = true) (rest : List Char) :
    readUnsigned limit (c :: rest) = readDigits limit 0 (c :: rest) := by
  have hplus : c ≠ '+' := by
    rintro rfl
    cases hc
  unfold readUnsigned
  split
  · rename_i heq
    cases heq
  · rename_i heq
    cases heq
    exact absurd rfl hplus
  · rename_i heq
    cases heq
    exact absurd rfl hplus
  · rfl

/-- A run of digits with or without a plus sign is read as the number that it makes, if that is
within the limit, and nothing else is read. -/
theorem readUnsigned_eq_ok_iff :
    readUnsigned limit text = .ok n ↔
      ∃ signed digits, text = plusSign signed ++ digits ∧ digits ≠ [] ∧
        (∀ c ∈ digits, c.isDigit = true) ∧ n = Nat.ofDigitChars 10 digits 0 ∧ n ≤ limit := by
  constructor
  · intro hread
    unfold readUnsigned at hread
    split at hread
    · cases hread
    · cases hread
    · rename_i rest hne
      have hdigits := (readDigits_eq_ok_iff (Nat.zero_le limit)).mp hread
      refine ⟨true, rest, rfl, ?_, hdigits⟩
      rintro rfl
      exact hne rfl
    · rename_i hne _ _
      have hdigits := (readDigits_eq_ok_iff (Nat.zero_le limit)).mp hread
      exact ⟨false, text, rfl, hne, hdigits⟩
  · rintro ⟨signed, digits, rfl, hne, hdigits⟩
    have hread := (readDigits_eq_ok_iff (Nat.zero_le limit)).mpr hdigits
    obtain ⟨c, rest, rfl⟩ := List.exists_cons_of_ne_nil hne
    cases signed with
    | true => exact hread
    | false => exact (readUnsigned_of_isDigit (hdigits.1 c List.mem_cons_self) rest).trans hread

end Text

end FleetTrial
