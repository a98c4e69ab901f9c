import FleetTrial.CommandLine.Arguments
import FleetTrial.Error
import FleetTrial.Proofs.Result
import FleetTrial.Proofs.Text.Digits
import FleetTrial.Proofs.Text.Trimming
import Mathlib

/-!
# Which texts are durations

A duration is spelled as a run of digits with or without a plus sign, blanks, and the suffix of a
unit. The characters of these parts are of different classes, so a text is spelled in one way at
most, although some suffixes end with others or begin like them. A text is read as a duration
exactly if it is spelled like one and its number fits a word. The word for no deadline begins with
no digit, so it is no duration.
-/

namespace FleetTrial

namespace Duration

/-- The milliseconds in a unit, by the suffix that stands for it; a number without one counts
seconds. -/
def unitMillis? : List Char → Option Nat
  | [] => some 1000
  | ['m', 's'] => some 1
  | ['s'] => some 1000
  | ['S'] => some 1000
  | ['m'] => some 60000
  | ['M'] => some 60000
  | ['h'] => some 3600000
  | ['H'] => some 3600000
  | _ => none

/-- The parts of a written duration. -/
structure Spelling where
  /-- Whether a plus sign stands in front. -/
  signed : Bool
  digits : List Char
  /-- The blanks between the number and the suffix. -/
  gap : List Char
  suffix : List Char
  /-- The milliseconds in the unit. -/
  unit : Nat

/-- The number that a written duration counts units by. -/
def Spelling.count (x : Spelling) : Nat := Nat.ofDigitChars 10 x.digits 0

/-- Whether a text is a duration with the given parts. -/
structure Spells (text : List Char) (x : Spelling) : Prop where
  text_eq : text = Text.plusSign x.signed ++ (x.digits ++ (x.gap ++ x.suffix))
  digits_ne_nil : x.digits ≠ []
  digits : ∀ c ∈ x.digits, c.isDigit = true
  gap : ∀ c ∈ x.gap, Text.isBlank c = true
  unit : unitMillis? x.suffix = some x.unit

/-- Whether a text is the word for no deadline, each letter being a small or a capital one. -/
def IsNoLimit (text : List Char) : Prop :=
  List.Forall₂ (fun c letter => c = letter ∨ c = letter.toUpper) text ['n', 'o', 'n', 'e']

section Classes

variable {c : Char}

/-- The codes of the digits. -/
theorem code_of_isDigit (hc : c.isDigit = true) : 48 ≤ c.toNat ∧ c.toNat ≤ 57 := by
  simp only [Char.isDigit, Bool.and_eq_true, decide_eq_true_eq] at hc
  exact hc

/-- The codes of the letters. -/
theorem isAlpha_iff_code :
    c.isAlpha = true ↔ (65 ≤ c.toNat ∧ c.toNat ≤ 90) ∨ (97 ≤ c.toNat ∧ c.toNat ≤ 122) := by
  simp only [Char.isAlpha, Char.isUpper, Char.isLower, Bool.or_eq_true, Bool.and_eq_true,
    decide_eq_true_eq]
  rfl

/-- A digit is no blank. -/
theorem isBlank_eq_false_of_isDigit (hc : c.isDigit = true) : Text.isBlank c = false := by
  have hcode := code_of_isDigit hc
  simp only [Text.isBlank, Text.blankRanges, List.any_cons, List.any_nil, Bool.or_eq_false_iff,
    Bool.and_eq_false_iff, decide_eq_false_iff_not, and_true]
  omega

/-- A letter is no blank. -/
theorem isBlank_eq_false_of_isAlpha (hc : c.isAlpha = true) : Text.isBlank c = false := by
  have hcode := isAlpha_iff_code.mp hc
  simp only [Text.isBlank, Text.blankRanges, List.any_cons, List.any_nil, Bool.or_eq_false_iff,
    Bool.and_eq_false_iff, decide_eq_false_iff_not, and_true]
  omega

/-- A letter is no digit. -/
theorem isDigit_eq_false_of_isAlpha (hc : c.isAlpha = true) : c.isDigit = false := by
  refine Bool.eq_false_iff.mpr fun hdigit => ?_
  have hcode := isAlpha_iff_code.mp hc
  have hcode' := code_of_isDigit hdigit
  omega

end Classes

section Units

variable {text suffix : List Char} {unit : Nat}

/-- A suffix begins with a letter. -/
theorem isAlpha_of_suffix (hunit : unitMillis? suffix = some unit) :
    ∀ c ∈ suffix.head?, c.isAlpha = true := by
  intro c hc
  unfold unitMillis? at hunit
  split at hunit
  · cases hc
  · cases hc; rfl
  · cases hc; rfl
  · cases hc; rfl
  · cases hc; rfl
  · cases hc; rfl
  · cases hc; rfl
  · cases hc; rfl
  · cases hunit

/-- The suffix of a unit is found at the end of a text in which no other letter stands. -/
theorem find?_unitSuffixes {body : List Char} (hbody : ∀ c ∈ body, c.isAlpha = false)
    (hunit : unitMillis? suffix = some unit) :
    unitSuffixes.find? (fun s => s.1.isSuffixOf (body ++ suffix)) =
      if suffix = [] then none else some (suffix, unit) := by
  have hlast : ∀ c ∈ body.reverse.head?, c.isAlpha = false := fun c hc =>
    hbody c (List.mem_reverse.mp (List.mem_of_head? hc))
  -- What is the suffix of a text is seen at the beginning of the reversed text.
  simp only [List.isSuffixOf, List.reverse_append]
  generalize body.reverse = before at hlast
  unfold unitMillis? at hunit
  split at hunit
  case h_9 => cases hunit
  all_goals
    cases hunit
    cases before with
    | nil => rfl
    | cons c before =>
      have hc : c.isAlpha = false := hlast c rfl
      have hne (letter : Char) (hletter : letter.isAlpha = true) : letter ≠ c := by
        rintro rfl
        exact Bool.false_ne_true (hc.symm.trans hletter)
      simp [unitSuffixes, List.isPrefixOf, hne 'm' rfl, hne 's' rfl, hne 'S' rfl, hne 'M' rfl,
        hne 'h' rfl, hne 'H' rfl]

/-- The suffix of a unit is taken off a text in which no other letter stands. -/
theorem splitUnit_append {body : List Char} (hbody : ∀ c ∈ body, c.isAlpha = false)
    (hunit : unitMillis? suffix = some unit) : splitUnit (body ++ suffix) = (body, unit) := by
  have htake : (body ++ suffix).take ((body ++ suffix).length - suffix.length) = body := by
    rw [List.length_append, Nat.add_sub_cancel, List.take_left]
  unfold splitUnit
  rw [find?_unitSuffixes hbody hunit]
  split
  · rename_i heq
    split at heq
    · cases heq
    · cases heq
      rw [htake]
  · rename_i heq
    split at heq
    · rename_i hnil
      subst hnil
      cases hunit
      rw [List.append_nil]
      rfl
    · cases heq

/-- Every text is taken apart in front of the suffix of a unit. -/
theorem exists_splitUnit (text : List Char) :
    ∃ body suffix unit, text = body ++ suffix ∧ unitMillis? suffix = some unit ∧
      splitUnit text = (body, unit) := by
  cases hfind : unitSuffixes.find? fun s => s.1.isSuffixOf text with
  | none =>
    refine ⟨text, [], plainUnit, (List.append_nil text).symm, rfl, ?_⟩
    simp only [splitUnit, hfind]
  | some s =>
    have hends : s.1.isSuffixOf text = true := by simpa using List.find?_some hfind
    have hsuffix : s.1 <:+ text := List.isSuffixOf_iff_suffix.mp hends
    have htable : ∀ s ∈ unitSuffixes, unitMillis? s.1 = some s.2 := by decide
    obtain ⟨body, rfl⟩ := hsuffix
    refine ⟨body, s.1, s.2, rfl, htable s (List.mem_of_find?_eq_some hfind), ?_⟩
    simp only [splitUnit, hfind, List.length_append, Nat.add_sub_cancel, List.take_left]

end Units

section Spelled

variable {text : List Char} {x y : Spelling}

/-- A run of digits with or without a plus sign neither begins nor ends with a blank. -/
theorem isBare_number {signed : Bool} {digits : List Char} (hne : digits ≠ [])
    (hdigits : ∀ c ∈ digits, c.isDigit = true) : Text.IsBare (Text.plusSign signed ++ digits) := by
  constructor
  · intro c hc
    cases signed with
    | true =>
      cases hc
      rfl
    | false => exact isBlank_eq_false_of_isDigit (hdigits c (List.mem_of_head? hc))
  · intro c hc
    rw [List.getLast?_append_of_ne_nil _ hne] at hc
    exact isBlank_eq_false_of_isDigit (hdigits c (List.mem_of_getLast? hc))

/-- In front of the suffix of a written duration stands no letter. -/
theorem Spells.isAlpha_eq_false (hspells : Spells text x) :
    ∀ c ∈ Text.plusSign x.signed ++ (x.digits ++ x.gap), c.isAlpha = false := by
  intro c hc
  refine Bool.eq_false_iff.mpr fun halpha => ?_
  simp only [List.mem_append] at hc
  rcases hc with hsign | hdigit | hblank
  · cases hsigned : x.signed with
    | true =>
      rw [hsigned] at hsign
      cases List.mem_singleton.mp hsign
      cases halpha
    | false =>
      rw [hsigned] at hsign
      cases hsign
  · exact Bool.false_ne_true
      ((isDigit_eq_false_of_isAlpha halpha).symm.trans (hspells.digits c hdigit))
  · exact Bool.false_ne_true
      ((isBlank_eq_false_of_isAlpha halpha).symm.trans (hspells.gap c hblank))

/-- The signs that two numbers have in front tell whether they are signed. -/
theorem plusSign_inj {signed signed' : Bool}
    (heq : Text.plusSign signed = Text.plusSign signed') : signed = signed' := by
  cases signed <;> cases signed' <;> first | rfl | cases heq

/-- The digits of a written duration begin with no plus sign. -/
theorem Spells.ne_plus (hspells : Spells text x) :
    ∀ c ∈ (x.digits ++ (x.gap ++ x.suffix)).head?, (c == '+') = false := by
  intro c hc
  rw [List.head?_append_of_ne_nil _ hspells.digits_ne_nil] at hc
  refine beq_eq_false_iff_ne.mpr ?_
  rintro rfl
  cases hspells.digits _ (List.mem_of_head? hc)

/-- Behind its digits a written duration goes on with no digit. -/
theorem Spells.isDigit_eq_false (hspells : Spells text x) :
    ∀ c ∈ (x.gap ++ x.suffix).head?, c.isDigit = false := by
  intro c hc
  rw [List.head?_append] at hc
  cases hgap : x.gap with
  | nil =>
    rw [hgap] at hc
    exact isDigit_eq_false_of_isAlpha (isAlpha_of_suffix hspells.unit c hc)
  | cons b rest =>
    rw [hgap] at hc
    cases hc
    refine Bool.eq_false_iff.mpr fun hdigit => ?_
    have hblank := hspells.gap c (hgap ▸ List.mem_cons_self)
    exact Bool.false_ne_true ((isBlank_eq_false_of_isDigit hdigit).symm.trans hblank)

/-- The suffix of a written duration begins with no blank. -/
theorem Spells.isBlank_eq_false (hspells : Spells text x) :
    ∀ c ∈ x.suffix.head?, Text.isBlank c = false := fun c hc =>
  isBlank_eq_false_of_isAlpha (isAlpha_of_suffix hspells.unit c hc)

/-- A text is a duration in one way at most. -/
theorem Spells.unique (hx : Spells text x) (hy : Spells text y) : x = y := by
  have hsign (signed : Bool) : ∀ c ∈ Text.plusSign signed, (c == '+') = true := by
    cases signed <;> simp [Text.plusSign]
  have htext := hx.text_eq.symm.trans hy.text_eq
  obtain ⟨hsigned, htext⟩ :=
    Text.append_inj_of_class (hsign _) (hsign _) hx.ne_plus hy.ne_plus htext
  obtain ⟨hdigits, htext⟩ :=
    Text.append_inj_of_class hx.digits hy.digits hx.isDigit_eq_false hy.isDigit_eq_false htext
  obtain ⟨hgaps, hsuffixes⟩ :=
    Text.append_inj_of_class hx.gap hy.gap hx.isBlank_eq_false hy.isBlank_eq_false htext
  have hunit := hx.unit.symm.trans ((congrArg unitMillis? hsuffixes).trans hy.unit)
  obtain ⟨signed, digits, gap, suffix, unit⟩ := x
  obtain ⟨signed', digits', gap', suffix', unit'⟩ := y
  cases plusSign_inj hsigned
  cases hdigits
  cases hgaps
  cases hsuffixes
  cases hunit
  rfl

/-- A written duration has at least one character. -/
theorem Spells.ne_nil (hspells : Spells text x) : text ≠ [] := by
  rintro rfl
  have hnil := hspells.text_eq
  simp only [List.nil_eq, List.append_eq_nil_iff] at hnil
  exact hspells.digits_ne_nil hnil.2.1

end Spelled

section Reading

variable {text : List Char} {x : Spelling} {d : Duration}

/-- The span that a written duration stands for. -/
def Spelling.span (x : Spelling) : Duration :=
  ofMillis (min (x.count * x.unit) Text.maxWord64)

/-- How the reading of a text goes on that is not blank. -/
theorem parse_eq {body : List Char} {unit : Nat} (hne : Text.trim text ≠ [])
    (hsplit : splitUnit (Text.trim text) = (body, unit)) :
    parse text = match Text.readUnsigned Text.maxWord64 (Text.trim body) with
      | .ok n => .ok (ofUnits n unit)
      | .error _ => .error (.malformed (String.ofList (Text.trim text))) := by
  have hempty : (Text.trim text).isEmpty = false := List.isEmpty_eq_false_iff.mpr hne
  cases hread : Text.readUnsigned Text.maxWord64 (Text.trim body) <;>
    simp only [parse, hempty, Bool.false_eq_true, if_false, hsplit, hread]

/-- What is spelled like a duration is read as that duration, if its number fits a word. -/
theorem Spells.parse_eq (hspells : Spells (Text.trim text) x) (hfits : x.count ≤ Text.maxWord64) :
    parse text = .ok x.span := by
  have hbody : Text.trim text = (Text.plusSign x.signed ++ (x.digits ++ x.gap)) ++ x.suffix := by
    rw [hspells.text_eq]
    simp only [List.append_assoc]
  have hsplit : splitUnit (Text.trim text) =
      (Text.plusSign x.signed ++ (x.digits ++ x.gap), x.unit) := by
    rw [hbody]
    exact splitUnit_append hspells.isAlpha_eq_false hspells.unit
  have hnumber : Text.trim (Text.plusSign x.signed ++ (x.digits ++ x.gap)) =
      Text.plusSign x.signed ++ x.digits := by
    refine Text.IsTrimmed.trim_eq ⟨isBare_number hspells.digits_ne_nil hspells.digits, [], x.gap,
      ?_, List.forall_mem_nil _, hspells.gap⟩
    rw [List.nil_append, List.append_assoc]
  have hread : Text.readUnsigned Text.maxWord64 (Text.plusSign x.signed ++ x.digits) =
      .ok x.count :=
    Text.readUnsigned_eq_ok_iff.mpr ⟨x.signed, x.digits, rfl, hspells.digits_ne_nil,
      hspells.digits, rfl, hfits⟩
  rw [Duration.parse_eq hspells.ne_nil hsplit, hnumber, hread]
  rfl

/-- What is read as a duration is spelled like one, and its number fits a word. -/
theorem exists_spells_of_parse (hparse : parse text = .ok d) :
    ∃ x, Spells (Text.trim text) x ∧ x.count ≤ Text.maxWord64 := by
  have hne : Text.trim text ≠ [] := by
    intro hnil
    simp only [parse, hnil, List.isEmpty_nil, if_true, reduceCtorEq] at hparse
  obtain ⟨body, suffix, unit, htext, hunit, hsplit⟩ := exists_splitUnit (Text.trim text)
  rw [Duration.parse_eq hne hsplit] at hparse
  split at hparse
  · rename_i n hread
    obtain ⟨signed, digits, hnumber, hdigits, hall, rfl, hfits⟩ :=
      Text.readUnsigned_eq_ok_iff.mp hread
    obtain ⟨_, before, after, hbody, hbefore, hafter⟩ := Text.isTrimmed_trim body
    obtain ⟨hbare, _⟩ := Text.isTrimmed_trim text
    -- The whole text begins with no blank, so no blank stands in front of the number.
    have hnil : before = [] := by
      cases before with
      | nil => rfl
      | cons b rest =>
        have hblank : Text.isBlank b = true := hbefore b List.mem_cons_self
        have hhead : Text.isBlank b = false := by
          refine hbare.head b ?_
          rw [htext, hbody]
          rfl
        exact absurd (hhead.symm.trans hblank) Bool.false_ne_true
    refine ⟨⟨signed, digits, after, suffix, unit⟩, ⟨?_, hdigits, hall, hafter, hunit⟩, hfits⟩
    rw [htext, hbody, hnil, hnumber]
    simp only [List.nil_append, List.append_assoc]
  · cases hparse

/-- What is wrong with a text that is read as no duration. -/
def faultOf (text : List Char) : DurationFault :=
  if text = [] then .empty else .malformed (String.ofList text)

/-- A text that is read as no duration is refused for being blank or malformed. -/
theorem parse_eq_ok_or (text : List Char) :
    (∃ d, parse text = .ok d) ∨ parse text = .error (faultOf (Text.trim text)) := by
  by_cases hnil : Text.trim text = []
  · refine .inr ?_
    simp only [parse, hnil, List.isEmpty_nil, if_true]
    rfl
  · obtain ⟨body, suffix, unit, _, _, hsplit⟩ := exists_splitUnit (Text.trim text)
    rw [Duration.parse_eq hnil hsplit]
    split
    · exact .inl ⟨_, rfl⟩
    · refine .inr ?_
      rw [faultOf, if_neg hnil]

/-- A character is a small letter, case apart, exactly if it is the letter or its capital. -/
theorem toLower_eq_iff {c letter : Char} (hlower : letter.isLower = true) :
    c.toLower = letter ↔ c = letter ∨ c = letter.toUpper := by
  have hself : letter.toLower = letter :=
    Char.toLower_eq_of_not_isUpper (Char.not_isUpper_of_isLower hlower)
  constructor
  · rintro rfl
    by_cases hupper : c.isUpper = true
    · refine .inr ?_
      rw [Char.toUpper_toLower_eq_toUpper,
        Char.toUpper_eq_of_not_isLower (Char.not_isLower_of_isUpper hupper)]
    · exact .inl (Char.toLower_eq_of_not_isUpper hupper).symm
  · rintro (rfl | rfl)
    · exact hself
    · rw [Char.toLower_toUpper_eq_toLower, hself]

/-- A text is a word of small letters, case apart, exactly if each of its characters is the letter
of the word or its capital. -/
theorem map_toLower_eq_iff {word : List Char} (hlower : ∀ letter ∈ word, letter.isLower = true) :
    text.map Char.toLower = word ↔
      List.Forall₂ (fun c letter => c = letter ∨ c = letter.toUpper) text word := by
  induction word generalizing text with
  | nil => rw [List.map_eq_nil_iff, List.forall₂_nil_right_iff]
  | cons letter word ih =>
    cases text with
    | nil => exact ⟨nofun, nofun⟩
    | cons c text =>
      rw [List.map_cons, List.cons.injEq, List.forall₂_cons,
        toLower_eq_iff (hlower letter List.mem_cons_self),
        ih fun letter hletter => hlower letter (List.mem_cons_of_mem _ hletter)]

/-- The word for no deadline is recognised in any case. -/
theorem isNoLimit_iff : IsNoLimit text ↔ text.map Char.toLower = noLimit :=
  (map_toLower_eq_iff (by simp)).symm

instance (text : List Char) : Decidable (IsNoLimit text) := decidable_of_iff _ isNoLimit_iff.symm

/-- The word for no deadline begins with a letter, so it is no duration. -/
theorem IsNoLimit.not_spells (hnone : IsNoLimit text) : ¬ Spells text x := by
  intro hspells
  have halpha : ∀ c ∈ text.head?, c.isAlpha = true := by
    intro c hc
    cases hnone with
    | cons hletter _ =>
      cases hc
      rcases hletter with rfl | rfl <;> rfl
  have hbody := hspells.isAlpha_eq_false
  have htext := hspells.text_eq
  obtain ⟨c, rest, hdigits⟩ := List.exists_cons_of_ne_nil hspells.digits_ne_nil
  have hc : c.isAlpha = false := hbody c (by simp [hdigits])
  rw [htext, hdigits] at halpha
  cases hsigned : x.signed with
  | true =>
    rw [hsigned] at halpha
    cases halpha '+' rfl
  | false =>
    rw [hsigned] at halpha
    exact Bool.false_ne_true (hc.symm.trans (halpha c rfl))

end Reading

/-- What is said of a text that is no duration. -/
theorem message_faultOf (text : List Char) :
    (TrialError.settings (.duration (faultOf text))).message =
      if text = [] then "Configuration error: Duration cannot be empty"
      else "Configuration error: Invalid duration format: '" ++ String.ofList text ++
        "' - expected a number with an optional ms/s/m/h suffix" := by
  have hwords : "Configuration error: Invalid duration format: '" =
      "Configuration error: " ++ "Invalid duration format: '" := rfl
  have hmessage (quoted : String) :
      (TrialError.settings (.duration (.malformed quoted))).message =
        "Configuration error: " ++ ("Invalid duration format: '" ++ quoted ++
          "' - expected a number with an optional ms/s/m/h suffix") := rfl
  unfold faultOf
  split
  · rfl
  · simp only [hmessage, hwords, String.append_assoc]

end Duration

namespace Arguments

open Duration

/-- A text is read as a duration exactly if it is spelled like one and its number fits a word. -/
theorem readDuration_eq_ok_iff {text : String} {d : Duration} :
    readDuration text = .ok d ↔
      ∃ x, Spells (Text.trim text.toList) x ∧ x.count ≤ Text.maxWord64 ∧ d = x.span := by
  constructor
  · intro hread
    have hparse : parse text.toList = .ok d := ok_of_mapError_eq_ok hread
    obtain ⟨x, hspells, hfits⟩ := exists_spells_of_parse hparse
    exact ⟨x, hspells, hfits, Except.ok.inj (hparse.symm.trans (hspells.parse_eq hfits))⟩
  · rintro ⟨x, hspells, hfits, rfl⟩
    rw [readDuration, hspells.parse_eq hfits]
    rfl

/-- A text that is read as no duration is refused for being blank or malformed. -/
theorem readDuration_eq_ok_or (text : String) :
    (∃ d, readDuration text = .ok d) ∨
      readDuration text = .error (.duration (faultOf (Text.trim text.toList))) := by
  rcases parse_eq_ok_or text.toList with ⟨d, hparse⟩ | hparse
  · exact .inl ⟨d, by rw [readDuration, hparse]; rfl⟩
  · exact .inr (by rw [readDuration, hparse]; rfl)

/-- A text is refused as a duration exactly if it is not spelled like one with a number that fits a
word. -/
theorem readDuration_eq_error_iff {text : String} {fault : SettingsFault} :
    readDuration text = .error fault ↔
      (¬ ∃ x, Spells (Text.trim text.toList) x ∧ x.count ≤ Text.maxWord64) ∧
        fault = .duration (faultOf (Text.trim text.toList)) := by
  constructor
  · intro hread
    refine ⟨?_, ?_⟩
    · rintro ⟨x, hspells, hfits⟩
      cases hread.symm.trans (readDuration_eq_ok_iff.mpr ⟨x, hspells, hfits, rfl⟩)
    · rcases readDuration_eq_ok_or text with ⟨d, hok⟩ | herror
      · cases hread.symm.trans hok
      · exact Except.error.inj (hread.symm.trans herror)
  · rintro ⟨hnone, rfl⟩
    rcases readDuration_eq_ok_or text with ⟨d, hok⟩ | herror
    · obtain ⟨x, hspells, hfits, _⟩ := readDuration_eq_ok_iff.mp hok
      exact absurd ⟨x, hspells, hfits⟩ hnone
    · exact herror

/-- A deadline is read as a duration is, but for the word for no deadline. -/
theorem readLimit_eq (text : String) :
    readLimit text = if IsNoLimit (Text.trim text.toList) then .ok none
      else (readDuration text).map some := by
  unfold readLimit parseLimit
  simp only [← isNoLimit_iff]
  split
  · rfl
  · rw [readDuration]
    cases parse text.toList <;> rfl

/-- **Which texts are durations.** A text is read as a duration exactly if it is spelled like one
between blanks and its number fits a word; it is spelled in one way only, and the duration is what
its number and its unit make, at most the largest word of milliseconds. Any other text is refused as
an error of the settings that quotes the text between the blanks. A deadline is read as a duration
is, but for the word for no deadline in any case, which is no duration. -/
theorem durations_accept_spellings (text : String) :
    Text.IsTrimmed text.toList (Text.trim text.toList) ∧
    (∀ d, readDuration text = .ok d ↔
      ∃ x, Spells (Text.trim text.toList) x ∧ x.count ≤ Text.maxWord64 ∧
        d = .ofMillis (min (x.count * x.unit) Text.maxWord64)) ∧
    (∀ x y, Spells (Text.trim text.toList) x → Spells (Text.trim text.toList) y → x = y) ∧
    (∀ fault, readDuration text = .error fault ↔
      (¬ ∃ x, Spells (Text.trim text.toList) x ∧ x.count ≤ Text.maxWord64) ∧
        fault = .duration (faultOf (Text.trim text.toList))) ∧
    (TrialError.settings (.duration (faultOf (Text.trim text.toList)))).message =
      (if Text.trim text.toList = [] then "Configuration error: Duration cannot be empty"
        else "Configuration error: Invalid duration format: '" ++ Text.trimmed text ++
          "' - expected a number with an optional ms/s/m/h suffix") ∧
    (readLimit text = .ok none ↔ IsNoLimit (Text.trim text.toList)) ∧
    (¬ IsNoLimit (Text.trim text.toList) → readLimit text = (readDuration text).map some) ∧
    (IsNoLimit (Text.trim text.toList) → ∃ fault, readDuration text = .error fault) := by
  refine ⟨Text.isTrimmed_trim _, fun d => readDuration_eq_ok_iff, fun x y hx hy => hx.unique hy,
    fun fault => readDuration_eq_error_iff, message_faultOf _, ?_, ?_, ?_⟩
  · rw [readLimit_eq]
    split
    · simp only [*]
    · cases readDuration text <;> simp [Except.map, *]
  · intro hlimit
    rw [readLimit_eq, if_neg hlimit]
  · intro hnone
    refine ⟨_, readDuration_eq_error_iff.mpr ⟨?_, rfl⟩⟩
    rintro ⟨x, hspells, _⟩
    exact hnone.not_spells hspells

/-- A product beyond the largest word stops there, and a number beyond it is refused. -/
example :
    readDuration " +18446744073709551615 h" = .ok (.ofMillis 18446744073709551615) ∧
      readDuration "18446744073709551616ms" =
        .error (.duration (.malformed "18446744073709551616ms")) := by
  decide

end Arguments

end FleetTrial
