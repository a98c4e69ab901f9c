import FleetTrial.Json.Skip

/-!
# Readers of JSON values

A reader takes one value of a known type off the front of a text. It leaves less text than it
was given, so that a loop over members ends. The scalar readers here are for strings, for counts
of a 64-bit word and for values that may be null.

A value of another type is mismatched only when it is a value at all: a scalar is read to its
end first, and what is wrong with it as JSON wins over its having the wrong type.
-/

namespace FleetTrial.Json

/-- Takes a value off the front of a text. -/
structure Reader (α : Type) where
  run : List Char → Except Fault (α × List Char)
  shorter : ∀ {text rest : List Char} {a : α}, run text = .ok (a, rest) → rest.length < text.length

/-- Applies a function to what a reader reads. -/
def Reader.map {α β : Type} (f : α → β) (r : Reader α) : Reader β where
  run text := (r.run text).map fun p => (f p.1, p.2)
  shorter := by
    intro text rest b h
    cases hr : r.run text with
    | error fault => simp [hr, Except.map] at h
    | ok p =>
      obtain ⟨a, after⟩ := p
      simp only [hr, Except.map, Except.ok.injEq, Prod.mk.injEq] at h
      exact h.2 ▸ r.shorter hr

/-- The fault of a text that starts with a value of a type nobody asked for; a scalar is read to
its end before its type is held against it. -/
def mismatch : List Char → Fault
  | [] => .truncated
  | 'n' :: rest => after (readWord ['u', 'l', 'l'] rest)
  | 't' :: rest => after (readWord ['r', 'u', 'e'] rest)
  | 'f' :: rest => after (readWord ['a', 'l', 's', 'e'] rest)
  | '-' :: rest => after (readNumber true rest)
  | '"' :: rest => after (readString rest)
  | '[' :: _ => .mismatched
  | '\x7b' :: _ => .mismatched
  | c :: rest => if c.isDigit then after (readNumber false (c :: rest)) else .malformed
where
  /-- A value that is sound in itself is mismatched. -/
  after {α : Type} : Except Fault α → Fault
    | .ok _ => .mismatched
    | .error fault => fault

theorem readString_length {text s rest : List Char} (h : readString text = .ok (s, rest)) :
    rest.length < text.length := by
  fun_induction readString text generalizing s rest with
  | case1 => simp at h
  | case2 r =>
    simp only [Except.ok.injEq, Prod.mk.injEq] at h
    simp [h.2]
  | case3 r fault hfault => simp at h
  | case4 r c after hafter ih =>
    have hescape := readEscape_length hafter
    cases hr : readString after with
    | error fault => simp [hr, Except.map] at h
    | ok p =>
      obtain ⟨tail, last⟩ := p
      simp only [hr, Except.map, Except.ok.injEq, Prod.mk.injEq] at h
      have := ih hr
      have hlast := h.2
      subst hlast
      simp only [List.length_cons]
      omega
  | case5 c r _ _ hc => simp at h
  | case6 c r _ _ hc ih =>
    cases hr : readString r with
    | error fault => simp [hr, Except.map] at h
    | ok p =>
      obtain ⟨tail, last⟩ := p
      simp only [hr, Except.map, Except.ok.injEq, Prod.mk.injEq] at h
      have := ih hr
      have hlast := h.2
      subst hlast
      simp only [List.length_cons]
      omega

/-- Reads a string. -/
def textReader : Reader String where
  run text :=
    match skipGap text with
    | '"' :: rest => (readString rest).map fun p => (String.ofList p.1, p.2)
    | other => .error (mismatch other)
  shorter := by
    intro text rest s h
    split at h
    · rename_i r hgap
      have hopen := skipGap_length hgap
      cases hr : readString r with
      | error fault => simp [hr, Except.map] at h
      | ok p =>
        have hread := readString_length hr
        simp only [hr, Except.map, Except.ok.injEq, Prod.mk.injEq] at h
        have hlast := h.2
        subst hlast
        omega
    · simp at h

/-- What is wrong with a number that is no count, and the count if it is one. -/
def asCount : Numeral × List Char → Except Fault (UInt64 × List Char)
  | (.count n, rest) => .ok (UInt64.ofNat n, rest)
  | (.other, _) => .error .mismatched

theorem asCount_rest {p : Numeral × List Char} {n : UInt64} {rest : List Char}
    (h : asCount p = .ok (n, rest)) : rest = p.2 := by
  obtain ⟨numeral, after⟩ := p
  cases numeral with
  | count n =>
    simp only [asCount, Except.ok.injEq, Prod.mk.injEq] at h
    exact h.2.symm
  | other => simp [asCount] at h

/-- Reads a count of a 64-bit word. -/
def countReader : Reader UInt64 where
  run text :=
    match skipGap text with
    | [] => .error .truncated
    | c :: rest =>
      if c.isDigit then (readNumber false (c :: rest)).bind asCount
      else .error (mismatch (c :: rest))
  shorter := by
    intro text rest n h
    have hgap := skipGap_length_le text
    split at h
    · simp at h
    · rename_i c more heq
      split at h
      · cases hr : readNumber false (c :: more) with
        | error fault => simp [hr, Except.bind] at h
        | ok p =>
          simp only [hr, Except.bind] at h
          have hrest := asCount_rest h
          subst hrest
          have := readNumber_length hr
          rw [heq] at hgap
          omega
      · simp at h

/-- Reads a value that may also be null. -/
def Reader.nullable {α : Type} (r : Reader α) : Reader (Option α) where
  run text :=
    match skipGap text with
    | 'n' :: rest => (readWord ['u', 'l', 'l'] rest).map fun after => (none, after)
    | _ => (r.run text).map fun p => (some p.1, p.2)
  shorter := by
    intro text rest a h
    split at h
    · rename_i more hgap
      have hopen := skipGap_length hgap
      cases hr : readWord ['u', 'l', 'l'] more with
      | error fault => simp [hr, Except.map] at h
      | ok after =>
        have := readWord_length hr
        simp only [hr, Except.map, Except.ok.injEq, Prod.mk.injEq] at h
        have hlast := h.2
        subst hlast
        omega
    · cases hr : r.run text with
      | error fault => simp [hr, Except.map] at h
      | ok p =>
        simp only [hr, Except.map, Except.ok.injEq, Prod.mk.injEq] at h
        have hlast := h.2
        subst hlast
        exact r.shorter hr

/-- Reads a text that holds one value and nothing else. -/
def Reader.whole {α : Type} (r : Reader α) (text : List Char) : Except Fault α :=
  match r.run text with
  | .error fault => .error fault
  | .ok (a, rest) => if (skipGap rest).isEmpty then .ok a else .error .malformed

end FleetTrial.Json
