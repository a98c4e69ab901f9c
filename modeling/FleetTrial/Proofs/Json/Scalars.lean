import FleetTrial.Json.Reader
import FleetTrial.Proofs.Json.Grammar
import FleetTrial.Proofs.Text.Digits

/-!
# Scanning scalars

The scanners of strings and numbers take exactly what the grammar allows, up to where it ends. The
end of a string is its closing quote. The end of a number is only seen by what stands behind it, so
a value is taken in front of a blank, of a comma, of a closing bracket or of nothing at all.
-/

namespace FleetTrial.Json

variable {text rest digits : List Char} {c : Char}

section Strings

variable {after s : List Char} {n : Nat}

/-- Four hexadecimal digits are read as the code unit that they write. -/
theorem WritesUnit.readHex4 (hunit : WritesUnit digits n) (rest : List Char) :
    readHex4 (digits ++ rest) = .ok (n, rest) := by
  cases hunit with
  | @digits a b c d _ _ _ _ ha hb hc hd =>
    have hsize : ¬ ((([a, b, c, d] ++ rest).take 4).foldl (fun n c => n + c.utf8Size) 0 < 4) := by
      have ha := a.utf8Size_pos
      have hb := b.utf8Size_pos
      have hc := c.utf8Size_pos
      have hd := d.utf8Size_pos
      simp only [List.cons_append, List.nil_append, List.take_succ_cons, List.take_zero,
        List.foldl_cons, List.foldl_nil]
      omega
    unfold Json.readHex4
    rw [if_neg hsize]
    simp only [List.cons_append, List.nil_append, ha, hb, hc, hd]

/-- A letter behind a backslash is read as what it stands for. -/
theorem readEscape_of_short {letter : Char} (hshort : shortEscape? letter = some c) :
    readEscape (letter :: rest) = .ok (c, rest) := by
  unfold readEscape
  split
  · rename_i heq
    cases heq
  · rename_i heq
    cases heq
    cases hshort
  · rename_i heq
    cases heq
    rw [hshort]

/-- A code unit that is no surrogate is read as its character. -/
theorem readEscape_of_single (hunit : WritesUnit digits n) (hhigh : isHighSurrogate n = false)
    (hlow : isLowSurrogate n = false) :
    readEscape ('u' :: (digits ++ rest)) = .ok (Char.ofNat n, rest) := by
  simp only [readEscape, hunit.readHex4, hhigh, hlow, Bool.false_eq_true, if_false]

/-- A pair of surrogates is read as their character. -/
theorem readEscape_of_pair {digits' : List Char} {high low : Nat} (hunit : WritesUnit digits high)
    (hhigh : isHighSurrogate high = true) (hunit' : WritesUnit digits' low)
    (hlow : isLowSurrogate low = true) :
    readEscape ('u' :: (digits ++ '\\' :: 'u' :: (digits' ++ rest))) =
      .ok (Char.ofNat (0x10000 + (high - 0xD800) * 0x400 + (low - 0xDC00)), rest) := by
  simp only [readEscape, hunit.readHex4, hhigh, if_true, readLowSurrogate, hunit'.readHex4, hlow]

/-- A backslash in a string stands for the character that its escape is read as. -/
theorem readString_of_escape (hescape : readEscape text = .ok (c, after)) :
    readString ('\\' :: text) = (readString after).map fun p => (c :: p.1, p.2) := by
  rw [readString]
  split
  · rename_i heq
    cases hescape.symm.trans heq
  · rename_i heq
    cases hescape.symm.trans heq
    rfl

/-- A character that needs no escape stands for itself. -/
theorem readString_of_plain (hplain : IsPlain c) :
    readString (c :: rest) = (readString rest).map fun p => (c :: p.1, p.2) := by
  rw [readString]
  · rw [if_neg hplain.not_control]
  · exact hplain.not_quote
  · exact hplain.not_backslash

/-- A string is read as what it spells, up to its closing quote. -/
theorem Spells.readString (hspells : Spells text s) (rest : List Char) :
    readString (text ++ '"' :: rest) = .ok (s, rest) := by
  induction hspells with
  | nil => rw [List.nil_append, Json.readString]
  | plain hplain _ ih =>
    rw [List.cons_append, readString_of_plain hplain, ih]
    rfl
  | short hshort _ ih =>
    rw [List.cons_append, List.cons_append, readString_of_escape (readEscape_of_short hshort), ih]
    rfl
  | single hunit hhigh hlow _ ih =>
    rw [List.cons_append, List.cons_append, List.append_assoc,
      readString_of_escape (readEscape_of_single hunit hhigh hlow), ih]
    rfl
  | pair hunit hhigh hunit' hlow _ ih =>
    simp only [List.cons_append, List.append_assoc]
    rw [readString_of_escape (readEscape_of_pair hunit hhigh hunit' hlow), ih]
    rfl

/-- A backslash in a string is passed over with its escape. -/
theorem skipString_of_escape (hescape : skipEscape text = .ok after) :
    skipString ('\\' :: text) = skipString after := by
  rw [skipString]
  split
  · rename_i heq
    cases hescape.symm.trans heq
  · rename_i heq
    cases hescape.symm.trans heq
    rfl

/-- A letter behind a backslash is passed over if it stands for a character. -/
theorem skipEscape_of_short {letter : Char} (hshort : (shortEscape? letter).isSome = true) :
    skipEscape (letter :: rest) = .ok rest := by
  unfold skipEscape
  split
  · rename_i heq
    cases heq
  · rename_i heq
    cases heq
    cases hshort
  · rename_i heq
    cases heq
    rw [if_pos hshort]

/-- A string is passed over up to its closing quote. -/
theorem IsStringBody.skipString (hbody : IsStringBody text) (rest : List Char) :
    skipString (text ++ '"' :: rest) = .ok rest := by
  induction hbody with
  | nil => rw [List.nil_append, Json.skipString]
  | plain hplain _ ih =>
    rw [List.cons_append, Json.skipString]
    · rw [if_neg hplain.not_control, ih]
    · exact hplain.not_quote
    · exact hplain.not_backslash
  | short hshort _ ih =>
    rw [List.cons_append, List.cons_append, skipString_of_escape (skipEscape_of_short hshort), ih]
  | @unit digits text n hunit _ ih =>
    have hescape : skipEscape ('u' :: (digits ++ (text ++ '"' :: rest))) =
        .ok (text ++ '"' :: rest) := by
      simp only [skipEscape, hunit.readHex4, Except.map]
    rw [List.cons_append, List.cons_append, List.append_assoc, skipString_of_escape hescape, ih]

end Strings

/-- What may stand behind a value: nothing, a blank, a comma or a closing bracket. -/
inductive Bounds : List Char → Prop
  | nothing : Bounds []
  | space (rest : List Char) : Bounds (' ' :: rest)
  | newline (rest : List Char) : Bounds ('\n' :: rest)
  | tab (rest : List Char) : Bounds ('\t' :: rest)
  | carriage (rest : List Char) : Bounds ('\r' :: rest)
  | comma (rest : List Char) : Bounds (',' :: rest)
  | bracket (rest : List Char) : Bounds (']' :: rest)
  | brace (rest : List Char) : Bounds ('\x7d' :: rest)

/-- Blanks may stand between a value and what may stand behind it. -/
theorem Gap.bounds (g : Gap) (hbounds : Bounds rest) : Bounds (g.text ++ rest) := by
  obtain ⟨text, hblank⟩ := g
  cases text with
  | nil => exact hbounds
  | cons c more =>
    have hc : isGap c = true := hblank c List.mem_cons_self
    simp only [isGap, Bool.or_eq_true, beq_iff_eq] at hc
    rcases hc with ((rfl | rfl) | rfl) | rfl
    · exact .space _
    · exact .newline _
    · exact .tab _
    · exact .carriage _

section Numbers

/-- Whether a text starts with no digit. -/
def StartsNoDigit (text : List Char) : Prop := ∀ c, text.head? = some c → c.isDigit = false

/-- What stands behind a value is no digit. -/
theorem Bounds.startsNoDigit (hbounds : Bounds rest) : StartsNoDigit rest := by
  intro c hc
  cases hbounds <;> cases hc <;> rfl

/-- The digits in front of what starts with no digit are the first digits. -/
theorem digitsOf_append (hdigits : ∀ c ∈ digits, c.isDigit = true) (hrest : StartsNoDigit rest) :
    digitsOf (digits ++ rest) = digits := by
  rw [digitsOf, List.takeWhile_append_of_pos hdigits]
  cases rest with
  | nil => exact List.append_nil digits
  | cons c rest =>
    rw [List.takeWhile_cons_of_neg (by rw [hrest c rfl]; exact Bool.false_ne_true),
      List.append_nil]

/-- Behind its first digits a text goes on with what starts with no digit. -/
theorem afterDigits_append (hdigits : ∀ c ∈ digits, c.isDigit = true) (hrest : StartsNoDigit rest) :
    afterDigits (digits ++ rest) = rest := by
  rw [afterDigits, List.dropWhile_append_of_pos hdigits]
  cases rest with
  | nil => rfl
  | cons c rest =>
    rw [List.dropWhile_cons_of_neg (by rw [hrest c rfl]; exact Bool.false_ne_true)]

/-- All digits are taken if the number that they make fits a word. -/
theorem takeDigits_eq {value : Nat}
    (hfits : Nat.ofDigitChars 10 digits value ≤ Text.maxWord64) (taken : Nat) :
    takeDigits value taken digits =
      (Nat.ofDigitChars 10 digits value, taken + digits.length) := by
  induction digits generalizing value taken with
  | nil => rfl
  | cons c digits ih =>
    rw [Nat.ofDigitChars_cons] at hfits ⊢
    have hnext := Nat.le_trans (Text.le_ofDigitChars digits _) hfits
    have hcomm : value * 10 + (c.toNat - '0'.toNat) = 10 * value + (c.toNat - '0'.toNat) := by
      omega
    simp only [takeDigits, hcomm, if_pos hnext, ih hfits, List.length_cons]
    rw [Nat.add_assoc, Nat.add_comm 1]

/-- A written number starts with the digit zero only if it is zero. -/
theorem toDigits_eq_cons {n : Nat} (hn : 0 < n) :
    ∃ c more, Nat.toDigits 10 n = c :: more ∧ c ≠ '0' := by
  induction n using Nat.strongRecOn with
  | ind n ih =>
    by_cases hsmall : n < 10
    · refine ⟨n.digitChar, [], Nat.toDigits_of_lt_base hsmall, fun hzero => ?_⟩
      have hvalue := Nat.toNat_digitChar_of_lt_ten hsmall
      have hcode : '0'.toNat = 48 := rfl
      rw [hzero] at hvalue
      omega
    · obtain ⟨c, more, hc, hzero⟩ := ih (n / 10) (by omega) (by omega)
      refine ⟨c, more ++ [(n % 10).digitChar], ?_, hzero⟩
      rw [Nat.toDigits_of_base_le (by decide) (Nat.not_lt.mp hsmall), hc]
      rfl

/-- The decimal digits of a number write it as a whole number. -/
theorem isWhole_toDigits (n : Nat) : IsWhole (Nat.toDigits 10 n) where
  digits :=
    ⟨Nat.toDigits_ne_nil, fun _ hc => Nat.isDigit_of_mem_toDigits (by decide) (by decide) hc⟩
  no_zeros c more hdigits := by
    obtain rfl | hn := Nat.eq_zero_or_pos n
    · cases hdigits
    · obtain ⟨head, tail, hhead, hzero⟩ := toDigits_eq_cons hn
      rw [hhead] at hdigits
      cases hdigits
      exact hzero rfl

/-- A written count is read back. -/
theorem readNumber_toDigits {n : Nat} (hn : n ≤ Text.maxWord64) (hbounds : Bounds rest) :
    readNumber false (Nat.toDigits 10 n ++ rest) = .ok (.count n, rest) := by
  obtain ⟨⟨hne, hdigits⟩, hzeros⟩ := isWhole_toDigits n
  have hvalue : Nat.ofDigitChars 10 (Nat.toDigits 10 n) 0 = n :=
    Nat.ofDigitChars_toDigits (by decide) (by decide)
  have htaken : takeDigits 0 0 (Nat.toDigits 10 n) = (n, (Nat.toDigits 10 n).length) := by
    have hfits : Nat.ofDigitChars 10 (Nat.toDigits 10 n) 0 ≤ Text.maxWord64 := hvalue.symm ▸ hn
    have htake := takeDigits_eq hfits 0
    rw [hvalue, Nat.zero_add] at htake
    exact htake
  unfold readNumber
  rw [digitsOf_append hdigits hbounds.startsNoDigit,
    afterDigits_append hdigits hbounds.startsNoDigit]
  simp only [htaken, Nat.sub_self]
  split
  · exact absurd ‹_› hne
  · exact absurd ‹_› hne
  · exact absurd ‹_› (hzeros _ _)
  · cases hbounds <;> rfl

/-- An exponent starts with its letter. -/
theorem IsExponent.startsNoDigit {exponent : List Char} (hexponent : IsExponent exponent)
    (hrest : StartsNoDigit rest) : StartsNoDigit (exponent ++ rest) := by
  cases hexponent with
  | none => exact hrest
  | letter hletter =>
    intro c hc
    cases hc
    obtain rfl | rfl := hletter <;> rfl

/-- A fraction starts with its point. -/
theorem IsFraction.startsNoDigit {fraction : List Char} (hfraction : IsFraction fraction)
    (hrest : StartsNoDigit rest) : StartsNoDigit (fraction ++ rest) := by
  cases hfraction with
  | none => exact hrest
  | point =>
    intro c hc
    cases hc
    rfl

/-- The digits of an exponent are passed over. -/
theorem skipExponent_append {sign : List Char} (hsign : sign = [] ∨ sign = ['+'] ∨ sign = ['-'])
    (hdigits : AreDigits digits) (hrest : StartsNoDigit rest) :
    skipExponent (sign ++ digits ++ rest) = .ok rest := by
  have hafter : afterSign (sign ++ digits ++ rest) = digits ++ rest := by
    obtain rfl | rfl | rfl := hsign
    · cases digits with
      | nil => exact absurd rfl hdigits.1
      | cons d more =>
        have hd := hdigits.2 d List.mem_cons_self
        simp only [List.nil_append, List.cons_append, afterSign]
        split
        · rename_i heq
          cases heq
          cases hd
        · rename_i heq
          cases heq
          cases hd
        · rfl
    · rfl
    · rfl
  have hnonempty : digits.isEmpty = false := List.isEmpty_eq_false_iff.mpr hdigits.1
  rw [skipExponent, hafter, digitsOf_append hdigits.2 hrest, afterDigits_append hdigits.2 hrest,
    hnonempty]
  rfl

/-- The digits of a fraction are passed over, and an exponent behind them. -/
theorem skipFraction_append {exponent : List Char} (hdigits : AreDigits digits)
    (hexponent : IsExponent exponent) (hbounds : Bounds rest) :
    skipFraction (digits ++ (exponent ++ rest)) = .ok rest := by
  have hmore := hexponent.startsNoDigit hbounds.startsNoDigit
  have hnonempty : digits.isEmpty = false := List.isEmpty_eq_false_iff.mpr hdigits.1
  unfold skipFraction
  rw [digitsOf_append hdigits.2 hmore, afterDigits_append hdigits.2 hmore, hnonempty]
  cases hexponent with
  | none => cases hbounds <;> rfl
  | letter hletter hsign hdigits' =>
    obtain rfl | rfl := hletter
    all_goals exact skipExponent_append hsign hdigits' hbounds.startsNoDigit

/-- A number is passed over. -/
theorem IsUnsigned.skipNumber (hnumber : IsUnsigned text) (hbounds : Bounds rest) :
    skipNumber (text ++ rest) = .ok rest := by
  cases hnumber with
  | @parts whole fraction exponent hwhole hfraction hexponent =>
    have hmore : StartsNoDigit (fraction ++ (exponent ++ rest)) :=
      hfraction.startsNoDigit (hexponent.startsNoDigit hbounds.startsNoDigit)
    obtain ⟨⟨hne, hdigits⟩, hzeros⟩ := hwhole
    rw [List.append_assoc, List.append_assoc]
    unfold Json.skipNumber
    rw [digitsOf_append hdigits hmore, afterDigits_append hdigits hmore]
    split
    · exact absurd rfl hne
    · exact absurd rfl (hzeros _ _)
    cases hfraction with
    | point hdigits' => exact skipFraction_append hdigits' hexponent hbounds
    | none =>
      cases hexponent with
      | none => cases hbounds <;> rfl
      | letter hletter hsign hdigits' =>
        obtain rfl | rfl := hletter
        all_goals exact skipExponent_append hsign hdigits' hbounds.startsNoDigit

end Numbers

end FleetTrial.Json
