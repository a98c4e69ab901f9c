import FleetTrial.Proofs.Json.PassingOver
import FleetTrial.Proofs.Result
import Mathlib.Data.List.TakeWhile

/-!
# More text behind a value

A scanner that has come to the end of a value does not look at what stands behind it, so more text
at the end of its text is only left over as well. The end of a string, of a word and of a member's
colon is in the text itself. The end of a number is the character behind it: the scanners of
numbers, and with them the passing over of values, have to leave some text for this to hold.
-/

namespace FleetTrial.Json

variable {text rest : List Char}

/-- More text at its end does not make a text start with another character. -/
theorem append_ne_cons {c : Char} (hne : text ≠ []) (hc : ∀ tail, text = c :: tail → False)
    (more tail : List Char) : text ++ more ≠ c :: tail := by
  obtain ⟨d, inner, rfl⟩ := List.exists_cons_of_ne_nil hne
  intro heq
  cases heq
  exact hc inner rfl

section Strings

/-- White space in front of something ends where it ends. -/
theorem skipGap_more (h : skipGap text ≠ []) (more : List Char) :
    skipGap (text ++ more) = skipGap text ++ more := by
  have hnonempty : ¬ (text.dropWhile isGap).isEmpty = true := mt List.isEmpty_iff.mp h
  rw [skipGap, List.dropWhile_append, if_neg hnonempty]
  rfl

/-- What stands behind white space is found with more text as well. -/
theorem skipGap_cons_more {c : Char} (h : skipGap text = c :: rest) (more : List Char) :
    skipGap (text ++ more) = c :: (rest ++ more) := by
  rw [skipGap_more (by rw [h]; exact List.cons_ne_nil c rest), h]
  rfl

/-- A word ends with its last letter. -/
theorem readWord_more {word : List Char} (h : readWord word text = .ok rest) (more : List Char) :
    readWord word (text ++ more) = .ok (rest ++ more) := by
  induction word generalizing text with
  | nil =>
    cases h
    rfl
  | cons w word ih =>
    cases text with
    | nil => cases h
    | cons c text =>
      simp only [readWord] at h
      simp only [List.cons_append, readWord]
      split at h
      · rw [if_pos ‹_›]
        exact ih h
      · cases h

/-- Four hexadecimal digits end with the last of them. -/
theorem readHex4_more {n : Nat} (h : readHex4 text = .ok (n, rest)) (more : List Char) :
    readHex4 (text ++ more) = .ok (n, rest ++ more) := by
  unfold readHex4 at h
  split at h
  · cases h
  · rename_i hsize
    split at h
    · rename_i a b c d tail
      have hsize' :
          ¬ (((a :: b :: c :: d :: tail ++ more).take 4).foldl (fun n c => n + c.utf8Size) 0 < 4) :=
        hsize
      unfold readHex4
      rw [if_neg hsize']
      simp only [List.cons_append]
      split at h
      · cases h
        simp only [*]
      · cases h
    · cases h

/-- A low surrogate ends with its digits. -/
theorem readLowSurrogate_more {high : Nat} {c : Char}
    (h : readLowSurrogate high text = .ok (c, rest)) (more : List Char) :
    readLowSurrogate high (text ++ more) = .ok (c, rest ++ more) := by
  unfold readLowSurrogate at h
  split at h
  · cases h
  · cases h
  · rename_i inner
    cases hhex : readHex4 inner with
    | error fault => simp only [hhex, reduceCtorEq] at h
    | ok p =>
      obtain ⟨low, after⟩ := p
      simp only [hhex] at h
      simp only [List.cons_append, readLowSurrogate, readHex4_more hhex]
      split at h
      · rename_i hlow
        simp only [Except.ok.injEq, Prod.mk.injEq] at h
        obtain ⟨rfl, rfl⟩ := h
        rw [if_pos hlow]
      · cases h
  · cases h

/-- An escape that is read ends with its letter or its digits. -/
theorem readEscape_more {c : Char} (h : readEscape text = .ok (c, rest)) (more : List Char) :
    readEscape (text ++ more) = .ok (c, rest ++ more) := by
  unfold readEscape at h
  split at h
  · cases h
  · rename_i inner
    cases hhex : readHex4 inner with
    | error fault => simp only [hhex, reduceCtorEq] at h
    | ok p =>
      obtain ⟨n, after⟩ := p
      simp only [hhex] at h
      simp only [List.cons_append, readEscape, readHex4_more hhex]
      split at h
      · rename_i hhigh
        rw [if_pos hhigh, readLowSurrogate_more h]
      · rename_i hhigh
        rw [if_neg hhigh]
        split at h
        · cases h
        · rename_i hlow
          cases h
          rw [if_neg hlow]
  · split at h
    · rename_i hshort
      cases h
      exact readEscape_of_short hshort
    · cases h

/-- An escape that is passed over ends with its letter or its digits. -/
theorem skipEscape_more (h : skipEscape text = .ok rest) (more : List Char) :
    skipEscape (text ++ more) = .ok (rest ++ more) := by
  unfold skipEscape at h
  split at h
  · cases h
  · rename_i inner
    obtain ⟨p, hhex, rfl⟩ := ok_of_map_eq_ok h
    simp only [List.cons_append, skipEscape, readHex4_more hhex, Except.map]
  · split at h
    · rename_i hshort
      cases h
      exact skipEscape_of_short hshort
    · cases h

/-- A string that is read ends with its quote. -/
theorem readString_more {s : List Char} (h : readString text = .ok (s, rest)) (more : List Char) :
    readString (text ++ more) = .ok (s, rest ++ more) := by
  fun_induction readString text generalizing s with
  | case1 => cases h
  | case2 r =>
    cases h
    rw [List.cons_append, readString]
  | case3 r fault hfault => cases h
  | case4 r c after hafter ih =>
    obtain ⟨p, hr, hp⟩ := ok_of_map_eq_ok h
    cases hp
    rw [List.cons_append, readString_of_escape (readEscape_more hafter more), ih hr]
    rfl
  | case5 c r _ _ hc => cases h
  | case6 c r hquote hbackslash hc ih =>
    obtain ⟨p, hr, hp⟩ := ok_of_map_eq_ok h
    cases hp
    rw [List.cons_append, readString_of_plain ⟨hquote, hbackslash, hc⟩, ih hr]
    rfl

/-- A string that is passed over ends with its quote. -/
theorem skipString_more (h : skipString text = .ok rest) (more : List Char) :
    skipString (text ++ more) = .ok (rest ++ more) := by
  fun_induction skipString text with
  | case1 => cases h
  | case2 r =>
    cases h
    rw [List.cons_append, skipString]
  | case3 r fault hfault => cases h
  | case4 r after hafter ih =>
    rw [List.cons_append, skipString_of_escape (skipEscape_more hafter more), ih h]
  | case5 c r _ _ hc => cases h
  | case6 c r hquote hbackslash hc ih =>
    rw [List.cons_append, skipString, if_neg hc, ih h]
    · exact hquote
    · exact hbackslash

/-- A colon is looked for behind white space only. -/
theorem skipColon_more (h : skipColon text = .ok rest) (more : List Char) :
    skipColon (text ++ more) = .ok (rest ++ more) := by
  unfold skipColon at h
  split at h
  · cases h
  · rename_i after hgap
    cases h
    simp only [skipColon, skipGap_cons_more hgap]
  · cases h

end Strings

section Numbers

variable {numeral : Numeral} {significand : Nat} {start : Int}

/-- Digits in front of something are the same with more text behind that. -/
theorem digits_more (hafter : afterDigits text ≠ []) (more : List Char) :
    digitsOf (text ++ more) = digitsOf text ∧
      afterDigits (text ++ more) = afterDigits text ++ more := by
  have hlength := congrArg List.length
    (List.takeWhile_append_dropWhile (p := Char.isDigit) (l := text))
  rw [List.length_append] at hlength
  have hpos : 0 < (text.dropWhile Char.isDigit).length := List.length_pos_iff.mpr hafter
  constructor
  · rw [digitsOf, List.takeWhile_append, if_neg (by omega)]
    rfl
  · have hnonempty : ¬ (text.dropWhile Char.isDigit).isEmpty = true := mt List.isEmpty_iff.mp hafter
    rw [afterDigits, List.dropWhile_append, if_neg hnonempty]
    rfl

/-- A sign in front of something is taken off with more text as well. -/
theorem afterSign_more (hmore : afterSign text ≠ []) (more : List Char) :
    afterSign (text ++ more) = afterSign text ++ more := by
  unfold afterSign at hmore
  split at hmore
  · rfl
  · rfl
  · rename_i hplus hminus
    have hself : afterSign text = text := by
      unfold afterSign
      split
      · exact absurd rfl (hplus _)
      · exact absurd rfl (hminus _)
      · rfl
    rw [hself]
    unfold afterSign
    split
    · exact absurd ‹_› (append_ne_cons hmore hplus more _)
    · exact absurd ‹_› (append_ne_cons hmore hminus more _)
    · rfl

/-- A number that has ended leaves all that stands behind it. -/
theorem endNumber_more {exponent : Int}
    (h : endNumber significand exponent text = .ok (numeral, rest)) (more : List Char) :
    endNumber significand exponent (text ++ more) = .ok (numeral, rest ++ more) := by
  unfold endNumber at h ⊢
  split at h
  · cases h
  · rename_i hfits
    cases h
    rw [if_neg hfits]

/-- An exponent that is read ends in front of some text. -/
theorem readExponent_more (h : readExponent significand start text = .ok (numeral, rest))
    (hrest : rest ≠ []) (more : List Char) :
    readExponent significand start (text ++ more) = .ok (numeral, rest ++ more) := by
  unfold readExponent at h
  split at h
  · cases h
  · rename_i c tail hsign
    split at h
    · rename_i hdigit
      have hafter : afterDigits (c :: tail) ≠ [] := endNumber_rest h ▸ hrest
      obtain ⟨hdigits, hdropped⟩ := digits_more hafter more
      have hsign' : afterSign (text ++ more) = c :: (tail ++ more) := by
        rw [afterSign_more (by rw [hsign]; exact List.cons_ne_nil c tail), hsign]
        rfl
      have hhead : (text ++ more).head? = text.head? := by
        cases text with
        | nil => cases hsign
        | cons d text => rfl
      rw [List.cons_append] at hdigits hdropped
      simp only [readExponent, hsign', hdigit, if_true, hdigits, hdropped, hhead]
      exact endNumber_more h more
    · cases h

/-- A fraction that is read ends in front of some text. -/
theorem readFraction_more (h : readFraction significand start text = .ok (numeral, rest))
    (hrest : rest ≠ []) (more : List Char) :
    readFraction significand start (text ++ more) = .ok (numeral, rest ++ more) := by
  unfold readFraction at h
  split at h
  · cases h
  · rename_i c tail
    split at h
    · rename_i hdigit
      have hafter : afterDigits (c :: tail) ≠ [] := by
        intro hnone
        simp only [hnone] at h
        exact hrest (endNumber_rest h)
      obtain ⟨hdigits, hdropped⟩ := digits_more hafter more
      rw [List.cons_append] at hdigits hdropped
      rw [List.cons_append]
      simp only [readFraction, hdigit, if_true, hdigits, hdropped]
      dsimp only at h
      split at h
      · rename_i inner heq
        rw [heq]
        exact readExponent_more h hrest more
      · rename_i inner heq
        rw [heq]
        exact readExponent_more h hrest more
      · rename_i hlower hupper
        split
        · exact absurd ‹_› (append_ne_cons hafter hlower more _)
        · exact absurd ‹_› (append_ne_cons hafter hupper more _)
        · exact endNumber_more h more
    · cases h

/-- What a number comes to behind the digits of its whole part. -/
def readBehindWhole (negative : Bool) (digits after : List Char) :
    Except Fault (Numeral × List Char) :=
  let (value, taken) := takeDigits 0 0 digits
  let dropped := digits.length - taken
  match after with
  | '.' :: rest => readFraction value dropped rest
  | 'e' :: rest => readExponent value dropped rest
  | 'E' :: rest => readExponent value dropped rest
  | rest =>
    if dropped = 0 && !negative then .ok (.count value, rest) else endNumber value dropped rest

/-- A number is read if its whole part is one, and then by what stands behind that. -/
theorem readNumber_eq_ok_iff {negative : Bool} {p : Numeral × List Char} :
    readNumber negative text = .ok p ↔
      IsWhole (digitsOf text) ∧
        readBehindWhole negative (digitsOf text) (afterDigits text) = .ok p := by
  have hdigit : ∀ c ∈ digitsOf text, c.isDigit = true := fun c hc => by
    exact List.mem_takeWhile_imp hc
  cases hd : digitsOf text with
  | nil =>
    have hfault : ∃ fault, readNumber negative text = .error fault := by
      cases text with
      | nil => exact ⟨.truncated, rfl⟩
      | cons c text => exact ⟨.malformed, by simp only [readNumber, hd]⟩
    obtain ⟨fault, hfault⟩ := hfault
    rw [hfault]
    exact ⟨nofun, fun h => absurd rfl h.1.digits.1⟩
  | cons c digits =>
    simp only [readNumber, hd]
    split
    · rename_i heq
      cases heq
    · rename_i heq
      cases heq
    · rename_i hzeros
      exact ⟨nofun, fun h => absurd hzeros (h.1.no_zeros _ _)⟩
    · rename_i hzeros _ _
      exact ⟨fun h => ⟨⟨⟨nofun, hd ▸ hdigit⟩, fun d more => hzeros d more⟩, h⟩, fun h => h.2⟩

/-- What a number comes to behind its whole part ends in front of some text. -/
theorem readBehindWhole_more {negative : Bool} {digits : List Char}
    (h : readBehindWhole negative digits text = .ok (numeral, rest)) (hrest : rest ≠ [])
    (more : List Char) :
    readBehindWhole negative digits (text ++ more) = .ok (numeral, rest ++ more) := by
  unfold readBehindWhole at h ⊢
  dsimp only at h ⊢
  split at h
  · exact readFraction_more h hrest more
  · exact readExponent_more h hrest more
  · exact readExponent_more h hrest more
  · rename_i hpoint hlower hupper
    have hkept : rest = text := by
      split at h
      · cases h
        rfl
      · exact endNumber_rest h
    subst hkept
    split
    · exact absurd ‹_› (append_ne_cons hrest hpoint more _)
    · exact absurd ‹_› (append_ne_cons hrest hlower more _)
    · exact absurd ‹_› (append_ne_cons hrest hupper more _)
    · split at h
      · rename_i hcount
        cases h
        rw [if_pos hcount]
      · rename_i hcount
        rw [if_neg hcount]
        exact endNumber_more h more

/-- A number that is read ends in front of some text. -/
theorem readNumber_more {negative : Bool} (h : readNumber negative text = .ok (numeral, rest))
    (hrest : rest ≠ []) (more : List Char) :
    readNumber negative (text ++ more) = .ok (numeral, rest ++ more) := by
  obtain ⟨hwhole, hbehind⟩ := readNumber_eq_ok_iff.mp h
  have hafter : afterDigits text ≠ [] := by
    intro hnone
    rw [hnone] at hbehind
    unfold readBehindWhole at hbehind
    dsimp only at hbehind
    split at hbehind
    · cases hbehind
      exact absurd rfl hrest
    · exact hrest (endNumber_rest hbehind)
  obtain ⟨hdigits, hdropped⟩ := digits_more hafter more
  rw [readNumber_eq_ok_iff, hdigits, hdropped]
  exact ⟨hwhole, readBehindWhole_more hbehind hrest more⟩

/-- An exponent that is passed over ends in front of some text. -/
theorem skipExponent_more (h : skipExponent text = .ok rest) (hrest : rest ≠ [])
    (more : List Char) : skipExponent (text ++ more) = .ok (rest ++ more) := by
  unfold skipExponent at h
  split at h
  · cases h
  · rename_i hnonempty
    cases h
    have hsign : afterSign text ≠ [] := by
      intro hnone
      rw [hnone] at hrest
      exact hrest rfl
    obtain ⟨hdigits, hdropped⟩ := digits_more hrest more
    rw [skipExponent, afterSign_more hsign, hdigits, hdropped, if_neg hnonempty]

/-- A fraction that is passed over ends in front of some text. -/
theorem skipFraction_more (h : skipFraction text = .ok rest) (hrest : rest ≠ [])
    (more : List Char) : skipFraction (text ++ more) = .ok (rest ++ more) := by
  unfold skipFraction at h
  split at h
  · cases h
  · rename_i hnonempty
    have hafter : afterDigits text ≠ [] := by
      intro hnone
      simp only [hnone] at h
      cases h
      exact hrest rfl
    obtain ⟨hdigits, hdropped⟩ := digits_more hafter more
    rw [skipFraction, hdigits, hdropped, if_neg hnonempty]
    split at h
    · rename_i inner heq
      rw [heq]
      exact skipExponent_more h hrest more
    · rename_i inner heq
      rw [heq]
      exact skipExponent_more h hrest more
    · rename_i hlower hupper
      cases h
      split
      · exact absurd ‹_› (append_ne_cons hafter hlower more _)
      · exact absurd ‹_› (append_ne_cons hafter hupper more _)
      · rfl

/-- A number that is passed over ends in front of some text. -/
theorem skipNumber_more (h : skipNumber text = .ok rest) (hrest : rest ≠ []) (more : List Char) :
    skipNumber (text ++ more) = .ok (rest ++ more) := by
  have hafter : afterDigits text ≠ [] := by
    intro hnone
    unfold skipNumber at h
    split at h
    · cases h
    · cases h
    · simp only [hnone] at h
      cases h
      exact hrest rfl
  obtain ⟨hdigits, hdropped⟩ := digits_more hafter more
  unfold skipNumber at h ⊢
  rw [hdigits, hdropped]
  split at h
  · cases h
  · cases h
  · split at h
    · rename_i inner heq
      rw [heq]
      exact skipFraction_more h hrest more
    · rename_i inner heq
      rw [heq]
      exact skipExponent_more h hrest more
    · rename_i inner heq
      rw [heq]
      exact skipExponent_more h hrest more
    · rename_i hpoint hlower hupper
      cases h
      split
      · exact absurd ‹_› (append_ne_cons hafter hpoint more _)
      · exact absurd ‹_› (append_ne_cons hafter hlower more _)
      · exact absurd ‹_› (append_ne_cons hafter hupper more _)
      · rfl

/-- A scalar ends in front of some text at the latest. -/
theorem skipScalar_more (h : skipScalar text = .ok rest) (hrest : rest ≠ []) (more : List Char) :
    skipScalar (text ++ more) = .ok (rest ++ more) := by
  unfold skipScalar at h
  split at h
  · cases h
  · exact readWord_more h more
  · exact readWord_more h more
  · exact readWord_more h more
  · exact skipNumber_more h hrest more
  · exact skipString_more h more
  · split at h
    · rename_i hdigit
      rw [List.cons_append, skipScalar_of_isDigit hdigit]
      exact skipNumber_more h hrest more
    · cases h

end Numbers

section Skipping

variable {expected goal : Expected} {stack : List Frame} {p : Passage}

/-- What a step leads to with more text at the end. -/
def Passage.extend (more : List Char) : Passage → Passage
  | .over rest => .over (rest ++ more)
  | .inside expected stack rest => .inside expected stack (rest ++ more)

/-- Whether there is text left behind a step to tell where it has ended. -/
def Passage.GoesOn : Passage → Prop
  | .over _ => True
  | .inside .after _ rest => rest ≠ []
  | .inside _ _ rest => skipGap rest ≠ []

/-- A step over an opening bracket is the same with more text, if enough is left to tell whether
the frame is empty. -/
theorem stepValue_opening_more (frame : Frame) (hgap : skipGap text = frame.opening :: rest)
    (h : stepValue stack text = .ok p) (hp : p.GoesOn) (more : List Char) :
    stepValue stack (text ++ more) = .ok (p.extend more) := by
  have hgap' := skipGap_cons_more hgap more
  cases frame
  all_goals
    simp only [Frame.opening] at hgap hgap'
    simp only [stepValue, hgap] at h
    simp only [stepValue, hgap']
    split at h
    · rename_i after hclose
      cases h
      rw [skipGap_cons_more hclose]
      rfl
    · rename_i hopen
      cases h
      have hrest : skipGap rest ≠ [] := hp
      rw [skipGap_more hrest]
      split
      · exact absurd ‹_› (append_ne_cons hrest hopen more _)
      · rfl

/-- A step over a scalar or an opening bracket is the same with more text. -/
theorem stepValue_more (h : stepValue stack text = .ok p) (hp : p.GoesOn) (more : List Char) :
    stepValue stack (text ++ more) = .ok (p.extend more) := by
  have hstep := h
  unfold stepValue at h
  split at h
  · exact stepValue_opening_more .array ‹_› hstep hp more
  · exact stepValue_opening_more .object ‹_› hstep hp more
  · rename_i harray hobject
    obtain ⟨rest, hscalar, rfl⟩ := ok_of_map_eq_ok h
    have hne : skipGap text ≠ [] := by
      intro hnone
      rw [hnone] at hscalar
      cases hscalar
    rw [stepValue, skipGap_more hne]
    split
    · exact absurd ‹_› (append_ne_cons hne harray more _)
    · exact absurd ‹_› (append_ne_cons hne hobject more _)
    · rw [skipScalar_more hscalar hp]
      rfl

/-- A step over the name of a member is the same with more text. -/
theorem stepMember_more (h : stepMember stack text = .ok p) (more : List Char) :
    stepMember stack (text ++ more) = .ok (p.extend more) := by
  unfold stepMember at h
  split at h
  · cases h
  · rename_i rest hgap
    obtain ⟨after, hbind, rfl⟩ := ok_of_map_eq_ok h
    obtain ⟨named, hname, hcolon⟩ := ok_of_bind_eq_ok hbind
    simp only [stepMember, skipGap_cons_more hgap, skipString_more hname, Except.bind,
      skipColon_more hcolon]
    rfl
  · cases h

/-- A step over a comma or a closing bracket is the same with more text. -/
theorem stepAfter_more (h : stepAfter stack text = .ok p) (more : List Char) :
    stepAfter stack (text ++ more) = .ok (p.extend more) := by
  unfold stepAfter at h
  split at h
  · cases h
    rfl
  · split at h
    case h_1 | h_6 => cases h
    all_goals
      rename_i hgap
      cases h
      simp only [stepAfter, skipGap_cons_more hgap]
      rfl

/-- A step that leaves enough to tell where it has ended is the same with more text. -/
theorem skipStep_more (h : skipStep expected stack text = .ok p) (hp : p.GoesOn)
    (more : List Char) : skipStep expected stack (text ++ more) = .ok (p.extend more) := by
  cases expected with
  | value => exact stepValue_more h hp more
  | member => exact stepMember_more h more
  | after => exact stepAfter_more h more

/-- With a step that is the last one a value has been passed over. -/
theorem skip_of_over (h : skipStep expected stack text = .ok (.over rest)) :
    skip expected stack text = .ok rest := by
  rw [skip]
  split
  · rename_i heq
    cases h.symm.trans heq
  · rename_i heq
    cases h.symm.trans heq
    rfl
  · rename_i heq
    cases h.symm.trans heq

/-- A step that fails is a value that cannot be passed over. -/
theorem skip_of_error {fault : Fault} (h : skipStep expected stack text = .error fault) :
    skip expected stack text = .error fault := by
  rw [skip]
  split
  · rename_i heq
    cases h.symm.trans heq
    rfl
  · rename_i heq
    cases h.symm.trans heq
  · rename_i heq
    cases h.symm.trans heq

/-- Where a value is passed over from, there is text left to tell where the step before has ended.
-/
theorem goesOn_of_skip (h : skip goal stack text = .ok rest) (hrest : rest ≠ []) :
    (Passage.inside goal stack text).GoesOn := by
  cases goal with
  | value =>
    intro hnone
    have hstep : skipStep .value stack text = .error .truncated := by
      simp only [skipStep, stepValue, hnone]
      rfl
    cases h.symm.trans (skip_of_error hstep)
  | member =>
    intro hnone
    have hstep : skipStep .member stack text = .error .truncated := by
      simp only [skipStep, stepMember, hnone]
    cases h.symm.trans (skip_of_error hstep)
  | after =>
    rintro rfl
    cases stack with
    | nil => exact hrest (Except.ok.inj (h.symm.trans (skip_of_over rfl)))
    | cons frame stack =>
      have hstep : skipStep .after (frame :: stack) [] = .error .truncated := rfl
      cases h.symm.trans (skip_of_error hstep)

/-- A value is passed over in the same steps with more text behind it. -/
theorem skip_more (h : skip expected stack text = .ok rest) (hrest : rest ≠ [])
    (more : List Char) : skip expected stack (text ++ more) = .ok (rest ++ more) := by
  -- Step by step; the rest of the way tells that each step has left enough text.
  fun_induction skip expected stack text with
  | case1 => cases h
  | case2 expected stack text r hstep =>
    cases h
    exact skip_of_over (skipStep_more hstep trivial more)
  | case3 expected stack text goal stack' r hstep ih =>
    rw [skip_of_step (skipStep_more hstep (goesOn_of_skip h hrest) more)]
    exact ih h

/-- A value that leaves some text is passed over in the same way with more text. -/
theorem skipValue_more (h : skipValue text = .ok rest) (hrest : rest ≠ []) (more : List Char) :
    skipValue (text ++ more) = .ok (rest ++ more) := skip_more h hrest more

end Skipping

end FleetTrial.Json
