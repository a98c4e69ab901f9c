import FleetTrial.Json.Fault
import FleetTrial.Text.Hex
import FleetTrial.Text.Number

/-!
# Scanning JSON text

The leaves of a JSON reader over a list of characters: blanks, words, strings and numbers, and
the passing over of a whole value that nobody asked for. Each scanner that succeeds leaves less
text than it was given, which is what the loops over members and items end by.

A value that is passed over is checked for its grammar only: the escapes of its strings need not
pair up, and its numbers may have any size.
-/

namespace FleetTrial.Json

/-- The blanks between the tokens of a JSON text. -/
def isGap (c : Char) : Bool := c == ' ' || c == '\n' || c == '\t' || c == '\r'

/-- Drops the blanks in front. -/
def skipGap (text : List Char) : List Char := text.dropWhile isGap

/-- Reads the given word. -/
def readWord : List Char → List Char → Except Fault (List Char)
  | [], text => .ok text
  | _ :: _, [] => .error .truncated
  | w :: word, c :: text => if c = w then readWord word text else .error .malformed

/-- Reads four hexadecimal digits; fewer than four bytes of text are too few. -/
def readHex4 (text : List Char) : Except Fault (Nat × List Char) :=
  if (text.take 4).foldl (fun n c => n + c.utf8Size) 0 < 4 then .error .truncated
  else
    match text with
    | a :: b :: c :: d :: rest =>
      match Text.hexDigit? a, Text.hexDigit? b, Text.hexDigit? c, Text.hexDigit? d with
      | some a, some b, some c, some d => .ok (((a * 16 + b) * 16 + c) * 16 + d, rest)
      | _, _, _, _ => .error .malformed
    | _ => .error .malformed

/-- Whether a code unit opens a pair of surrogates. -/
def isHighSurrogate (n : Nat) : Bool := 0xD800 ≤ n && n ≤ 0xDBFF

/-- Whether a code unit closes a pair of surrogates. -/
def isLowSurrogate (n : Nat) : Bool := 0xDC00 ≤ n && n ≤ 0xDFFF

/-- Reads the second half of a pair of surrogates, whose first half is `high`. -/
def readLowSurrogate (high : Nat) : List Char → Except Fault (Char × List Char)
  | [] => .error .truncated
  | '\\' :: [] => .error .truncated
  | '\\' :: 'u' :: text =>
    match readHex4 text with
    | .error fault => .error fault
    | .ok (low, rest) =>
      if isLowSurrogate low then
        .ok (Char.ofNat (0x10000 + (high - 0xD800) * 0x400 + (low - 0xDC00)), rest)
      else .error .malformed
  | _ => .error .malformed

/-- The character that a backslash and a letter stand for. -/
def shortEscape? (c : Char) : Option Char :=
  match c with
  | '"' => some '"'
  | '\\' => some '\\'
  | '/' => some '/'
  | 'b' => some '\x08'
  | 'f' => some '\x0c'
  | 'n' => some '\n'
  | 'r' => some '\r'
  | 't' => some '\t'
  | _ => none

/-- Reads what follows a backslash. -/
def readEscape : List Char → Except Fault (Char × List Char)
  | [] => .error .truncated
  | 'u' :: text =>
    match readHex4 text with
    | .error fault => .error fault
    | .ok (n, rest) =>
      if isHighSurrogate n then readLowSurrogate n rest
      else if isLowSurrogate n then .error .malformed
      else .ok (Char.ofNat n, rest)
  | c :: text =>
    match shortEscape? c with
    | some plain => .ok (plain, text)
    | none => .error .malformed

/-- Passes over what follows a backslash. -/
def skipEscape : List Char → Except Fault (List Char)
  | [] => .error .truncated
  | 'u' :: text => (readHex4 text).map (·.2)
  | c :: text => if (shortEscape? c).isSome then .ok text else .error .malformed

theorem readHex4_length {text rest : List Char} {n : Nat} (h : readHex4 text = .ok (n, rest)) :
    rest.length < text.length := by
  unfold readHex4 at h
  split at h
  · simp at h
  · split at h
    · split at h
      · simp only [Except.ok.injEq, Prod.mk.injEq] at h
        obtain ⟨-, rfl⟩ := h
        simp only [List.length_cons]
        omega
      · simp at h
    · simp at h

theorem readLowSurrogate_length {high : Nat} {text rest : List Char} {c : Char}
    (h : readLowSurrogate high text = .ok (c, rest)) : rest.length < text.length := by
  unfold readLowSurrogate at h
  split at h
  · simp at h
  · simp at h
  · rename_i inner
    cases hx : readHex4 inner with
    | error fault => simp [hx] at h
    | ok p =>
      obtain ⟨low, r⟩ := p
      have hlt := readHex4_length hx
      simp only [hx] at h
      split at h
      · simp only [Except.ok.injEq, Prod.mk.injEq] at h
        obtain ⟨-, rfl⟩ := h
        simp only [List.length_cons]
        omega
      · simp at h
  · simp at h

theorem readEscape_length {text rest : List Char} {c : Char}
    (h : readEscape text = .ok (c, rest)) : rest.length < text.length := by
  unfold readEscape at h
  split at h
  · simp at h
  · rename_i inner
    cases hx : readHex4 inner with
    | error fault => simp [hx] at h
    | ok p =>
      obtain ⟨n, r⟩ := p
      have hlt := readHex4_length hx
      simp only [hx] at h
      split at h
      · have hlow := readLowSurrogate_length h
        simp only [List.length_cons]
        omega
      · split at h
        · simp at h
        · simp only [Except.ok.injEq, Prod.mk.injEq] at h
          obtain ⟨-, rfl⟩ := h
          simp only [List.length_cons]
          omega
  · split at h
    · simp only [Except.ok.injEq, Prod.mk.injEq] at h
      obtain ⟨-, rfl⟩ := h
      simp
    · simp at h

theorem skipEscape_length {text rest : List Char} (h : skipEscape text = .ok rest) :
    rest.length < text.length := by
  unfold skipEscape at h
  split at h
  · simp at h
  · rename_i inner
    cases hx : readHex4 inner with
    | error fault => simp [hx, Except.map] at h
    | ok p =>
      have hlt := readHex4_length hx
      simp only [hx, Except.map, Except.ok.injEq] at h
      subst h
      simp only [List.length_cons]
      omega
  · split at h
    · simp only [Except.ok.injEq] at h
      subst h
      simp
    · simp at h

/-- Reads a string up to its closing quote, the opening quote being gone already. -/
def readString (text : List Char) : Except Fault (List Char × List Char) :=
  match text with
  | [] => .error .truncated
  | '"' :: rest => .ok ([], rest)
  | '\\' :: rest =>
    match _h : readEscape rest with
    | .error fault => .error fault
    | .ok (c, after) => (readString after).map fun (s, r) => (c :: s, r)
  | c :: rest =>
    if c.toNat < 0x20 then .error .malformed
    else (readString rest).map fun (s, r) => (c :: s, r)
termination_by text.length
decreasing_by
  · have := readEscape_length _h
    simp only [List.length_cons]
    omega
  · simp

/-- Passes over a string up to its closing quote, the opening quote being gone already. -/
def skipString (text : List Char) : Except Fault (List Char) :=
  match text with
  | [] => .error .truncated
  | '"' :: rest => .ok rest
  | '\\' :: rest =>
    match _h : skipEscape rest with
    | .error fault => .error fault
    | .ok after => skipString after
  | c :: rest => if c.toNat < 0x20 then .error .malformed else skipString rest
termination_by text.length
decreasing_by
  · have := skipEscape_length _h
    simp only [List.length_cons]
    omega
  · simp

end FleetTrial.Json
