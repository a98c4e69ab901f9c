import FleetTrial.Json.Numeral
import FleetTrial.Json.Scan

/-!
# Passing over a JSON value

A value that nobody asked for may nest to any depth, so it is passed over with a list of the
arrays and objects that are still open instead of by recursion into them.
-/

namespace FleetTrial.Json

/-- What encloses the place in the text: an open array or an open object. -/
inductive Frame
  | array
  | object
  deriving DecidableEq, Repr

/-- What the text has to go on with. -/
inductive Expected
  /-- A value. -/
  | value
  /-- The name of a member. -/
  | member
  /-- Whatever may follow a finished value inside the innermost open frame. -/
  | after
  deriving DecidableEq, Repr

theorem skipGap_length_le (text : List Char) : (skipGap text).length ≤ text.length :=
  (List.dropWhile_suffix _).length_le

theorem skipGap_length {c : Char} {rest text : List Char} (h : skipGap text = c :: rest) :
    rest.length < text.length := by
  have := skipGap_length_le text
  rw [h] at this
  simp only [List.length_cons] at this
  omega

theorem readWord_length {word text rest : List Char} (h : readWord word text = .ok rest) :
    rest.length ≤ text.length := by
  induction word generalizing text with
  | nil =>
    simp only [readWord, Except.ok.injEq] at h
    simp [h]
  | cons w more ih =>
    cases text with
    | nil => simp [readWord] at h
    | cons c tail =>
      simp only [readWord] at h
      split at h
      · have := ih h
        simp only [List.length_cons]
        omega
      · simp at h

theorem skipString_length {text rest : List Char} (h : skipString text = .ok rest) :
    rest.length < text.length := by
  fun_induction skipString text with
  | case1 => simp at h
  | case2 r =>
    simp only [Except.ok.injEq] at h
    simp [h]
  | case3 r fault hfault => simp at h
  | case4 r after hafter ih =>
    have := ih h
    have := skipEscape_length hafter
    simp only [List.length_cons]
    omega
  | case5 c r _ _ hc => simp at h
  | case6 c r _ _ hc ih =>
    have := ih h
    simp only [List.length_cons]
    omega

/-- Passes over the colon behind the name of a member. -/
def skipColon (text : List Char) : Except Fault (List Char) :=
  match skipGap text with
  | [] => .error .truncated
  | ':' :: rest => .ok rest
  | _ => .error .malformed

theorem skipColon_length {text rest : List Char} (h : skipColon text = .ok rest) :
    rest.length < text.length := by
  unfold skipColon at h
  split at h
  · simp at h
  · rename_i r heq
    simp only [Except.ok.injEq] at h
    exact h ▸ skipGap_length heq
  · simp at h

/-- Passes over a value that is no array and no object. -/
def skipScalar : List Char → Except Fault (List Char)
  | [] => .error .truncated
  | 'n' :: rest => readWord ['u', 'l', 'l'] rest
  | 't' :: rest => readWord ['r', 'u', 'e'] rest
  | 'f' :: rest => readWord ['a', 'l', 's', 'e'] rest
  | '-' :: rest => skipNumber rest
  | '"' :: rest => skipString rest
  | c :: rest => if c.isDigit then skipNumber (c :: rest) else .error .malformed

theorem skipScalar_length {text rest : List Char} (h : skipScalar text = .ok rest) :
    rest.length < text.length := by
  unfold skipScalar at h
  split at h
  · simp at h
  · exact Nat.lt_succ_of_le (readWord_length h)
  · exact Nat.lt_succ_of_le (readWord_length h)
  · exact Nat.lt_succ_of_le (readWord_length h)
  · exact Nat.lt_succ_of_lt (skipNumber_length h)
  · exact Nat.lt_succ_of_lt (skipString_length h)
  · split at h
    · exact skipNumber_length h
    · simp at h

/-- What one step over a value leads to. -/
inductive Passage
  /-- The value is over, and this text follows it. -/
  | over (rest : List Char)
  /-- The value goes on in this text, with these frames open. -/
  | inside (expected : Expected) (stack : List Frame) (rest : List Char)

/-- The text that a step leaves. -/
def Passage.rest : Passage → List Char
  | .over rest => rest
  | .inside _ _ rest => rest

/-- A step where a value is expected: over a scalar, or into an array or object. -/
def stepValue (stack : List Frame) (text : List Char) : Except Fault Passage :=
  match skipGap text with
  | '[' :: rest =>
    match skipGap rest with
    | ']' :: after => .ok (.inside .after stack after)
    | _ => .ok (.inside .value (.array :: stack) rest)
  | '\x7b' :: rest =>
    match skipGap rest with
    | '\x7d' :: after => .ok (.inside .after stack after)
    | _ => .ok (.inside .member (.object :: stack) rest)
  | scalar => (skipScalar scalar).map (.inside .after stack)

/-- A step where the name of a member is expected: over the name and its colon. -/
def stepMember (stack : List Frame) (text : List Char) : Except Fault Passage :=
  match skipGap text with
  | [] => .error .truncated
  | '"' :: rest => ((skipString rest).bind skipColon).map (.inside .value stack)
  | _ => .error .malformed

/-- A step behind a finished value: over a comma, or out of the innermost open frame. -/
def stepAfter : List Frame → List Char → Except Fault Passage
  | [], text => .ok (.over text)
  | frame :: outer, text =>
    match skipGap text, frame with
    | [], _ => .error .truncated
    | ',' :: rest, .array => .ok (.inside .value (frame :: outer) rest)
    | ',' :: rest, .object => .ok (.inside .member (frame :: outer) rest)
    | ']' :: rest, .array => .ok (.inside .after outer rest)
    | '\x7d' :: rest, .object => .ok (.inside .after outer rest)
    | _, _ => .error .malformed

/-- One step over a value. -/
def skipStep : Expected → List Frame → List Char → Except Fault Passage
  | .value => stepValue
  | .member => stepMember
  | .after => stepAfter

theorem stepValue_length {stack : List Frame} {text : List Char} {p : Passage}
    (h : stepValue stack text = .ok p) : p.rest.length < text.length := by
  unfold stepValue at h
  split at h
  · rename_i rest hgap
    have hopen := skipGap_length hgap
    split at h
    · rename_i after hclose
      have := skipGap_length hclose
      cases h
      simp only [Passage.rest]
      omega
    · cases h
      exact hopen
  · rename_i rest hgap
    have hopen := skipGap_length hgap
    split at h
    · rename_i after hclose
      have := skipGap_length hclose
      cases h
      simp only [Passage.rest]
      omega
    · cases h
      exact hopen
  · cases hscalar : skipScalar (skipGap text) with
    | error fault => simp [hscalar, Except.map] at h
    | ok rest =>
      simp only [hscalar, Except.map, Except.ok.injEq] at h
      subst h
      exact Nat.lt_of_lt_of_le (skipScalar_length hscalar) (skipGap_length_le text)

theorem stepMember_length {stack : List Frame} {text : List Char} {p : Passage}
    (h : stepMember stack text = .ok p) : p.rest.length < text.length := by
  unfold stepMember at h
  split at h
  · simp at h
  · rename_i rest hgap
    have hopen := skipGap_length hgap
    cases hname : skipString rest with
    | error fault => simp [hname, Except.bind, Except.map] at h
    | ok named =>
      have := skipString_length hname
      cases hcolon : skipColon named with
      | error fault => simp [hname, hcolon, Except.bind, Except.map] at h
      | ok after =>
        have := skipColon_length hcolon
        simp only [hname, hcolon, Except.bind, Except.map, Except.ok.injEq] at h
        subst h
        simp only [Passage.rest]
        omega
  · simp at h

theorem stepAfter_length {stack : List Frame} {text : List Char} {p : Passage}
    (h : stepAfter stack text = .ok p) :
    p = .over text ∨ p.rest.length < text.length := by
  unfold stepAfter at h
  split at h
  · cases h
    exact .inl rfl
  · refine .inr ?_
    split at h
    · simp at h
    · rename_i hgap
      cases h
      exact skipGap_length hgap
    · rename_i hgap
      cases h
      exact skipGap_length hgap
    · rename_i hgap
      cases h
      exact skipGap_length hgap
    · rename_i hgap
      cases h
      exact skipGap_length hgap
    · simp at h

theorem skipStep_length {expected goal : Expected} {stack stack' : List Frame}
    {text rest : List Char} (h : skipStep expected stack text = .ok (.inside goal stack' rest)) :
    rest.length < text.length := by
  cases expected with
  | value => exact stepValue_length h
  | member => exact stepMember_length h
  | after =>
    cases stepAfter_length h with
    | inl hover => simp at hover
    | inr hlt => exact hlt

/-- Passes over text up to the end of the value around which the frames of `stack` are open. -/
def skip (expected : Expected) (stack : List Frame) (text : List Char) :
    Except Fault (List Char) :=
  match _hstep : skipStep expected stack text with
  | .error fault => .error fault
  | .ok (.over rest) => .ok rest
  | .ok (.inside goal stack' rest) => skip goal stack' rest
termination_by text.length
decreasing_by exact skipStep_length _hstep

/-- Passes over one value. -/
def skipValue (text : List Char) : Except Fault (List Char) := skip .value [] text

theorem skip_length_le {expected : Expected} {stack : List Frame} {text rest : List Char}
    (h : skip expected stack text = .ok rest) : rest.length ≤ text.length := by
  fun_induction skip expected stack text with
  | case1 => simp at h
  | case2 expected stack text r hstep =>
    cases h
    cases expected with
    | value => exact Nat.le_of_lt (stepValue_length hstep)
    | member => exact Nat.le_of_lt (stepMember_length hstep)
    | after =>
      cases stepAfter_length hstep with
      | inl hover =>
        cases hover
        exact Nat.le_refl _
      | inr hlt => exact Nat.le_of_lt hlt
  | case3 expected stack text goal stack' r hstep ih =>
    exact Nat.le_trans (ih h) (Nat.le_of_lt (skipStep_length hstep))

theorem skipValue_length {text rest : List Char} (h : skipValue text = .ok rest) :
    rest.length < text.length := by
  unfold skipValue at h
  rw [skip] at h
  split at h
  · simp at h
  · rename_i hstep
    cases h
    exact stepValue_length hstep
  · rename_i hstep
    exact Nat.lt_of_le_of_lt (skip_length_le h) (stepValue_length hstep)

end FleetTrial.Json
