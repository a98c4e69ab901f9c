import FleetTrial.Json.Reader

/-!
# Records in JSON

A record is written as an object of named members or as an array of the same members in their
declared order. A member that is left out keeps its default in either form. In an object an
unknown member is passed over and a known one may stand only once; an array may end early but
holds nothing beyond the last member.
-/

namespace FleetTrial.Json

/-- A member of a record: its name, and how its value changes the record. -/
structure Member (σ : Type) where
  name : String
  reader : Reader (σ → σ)

variable {σ : Type}

/-- A member that sets a field. -/
def Member.of {α : Type} (name : String) (reader : Reader α) (set : α → σ → σ) : Member σ :=
  ⟨name, reader.map set⟩

/-- Closes an array, nothing more being allowed in it. -/
def closeArray (text : List Char) : Except Fault (List Char) :=
  match skipGap text with
  | [] => .error .truncated
  | ']' :: rest => .ok rest
  | _ => .error .malformed

/-- Finds the next item of an array: the text that it starts in, or none if the array ends here.
An item other than the first stands behind a comma. -/
def nextItem (first : Bool) (text : List Char) : Except Fault (Option (List Char)) :=
  match skipGap text with
  | [] => .error .truncated
  | ']' :: _ => .ok none
  | ',' :: rest =>
    if first then .ok (some (',' :: rest))
    else
      match skipGap rest with
      | [] => .error .truncated
      | ']' :: _ => .error .malformed
      | item => .ok (some item)
  | item => if first then .ok (some item) else .error .malformed

/-- Reads the members of a record in their declared order, up to the end of the array. -/
def readItems (value : σ) (first : Bool) : List (Member σ) → List Char →
    Except Fault (σ × List Char)
  | [], text => (closeArray text).map (value, ·)
  | m :: more, text =>
    match nextItem first text with
    | .error fault => .error fault
    | .ok none => (closeArray text).map (value, ·)
    | .ok (some item) =>
      match m.reader.run item with
      | .error fault => .error fault
      | .ok (set, rest) => readItems (set value) false more rest

/-- Reads the name of a member, its opening quote expected in front. -/
def readName (text : List Char) : Except Fault (List Char × List Char) :=
  match text with
  | [] => .error .truncated
  | '"' :: rest => readString rest
  | _ => .error .malformed

/-- Finds the next member of an object: its name and the text behind it, or the text behind the
object if it ends here. A member other than the first stands behind a comma. -/
def nextName (first : Bool) (text : List Char) :
    Except Fault (Option (List Char) × List Char) :=
  match skipGap text with
  | [] => .error .truncated
  | '\x7d' :: rest => .ok (none, rest)
  | ',' :: rest =>
    if first then .error .malformed
    else (readName (skipGap rest)).map fun p => (some p.1, p.2)
  | name =>
    if first then (readName name).map fun p => (some p.1, p.2) else .error .malformed

/-- Reads the colon and the value of a member: how the record changes. -/
def readMember (members : List (Member σ)) (seen : List (List Char)) (name text : List Char) :
    Except Fault ((σ → σ) × List Char) :=
  match members.find? fun m => m.name.toList == name with
  | none => ((skipColon text).bind skipValue).map (id, ·)
  | some m =>
    if seen.contains name then .error .mismatched else (skipColon text).bind m.reader.run

theorem readName_length {text name rest : List Char} (h : readName text = .ok (name, rest)) :
    rest.length < text.length := by
  unfold readName at h
  split at h
  · simp at h
  · exact Nat.lt_succ_of_lt (readString_length h)
  · simp at h

theorem map_some_length {text rest : List Char} {name : Option (List Char)}
    (h : (readName text).map (fun p => (some p.1, p.2)) = .ok (name, rest)) :
    rest.length < text.length := by
  cases hr : readName text with
  | error fault => simp [hr, Except.map] at h
  | ok p =>
    simp only [hr, Except.map, Except.ok.injEq, Prod.mk.injEq] at h
    exact h.2 ▸ readName_length hr

theorem nextName_length {first : Bool} {text rest : List Char} {name : Option (List Char)}
    (h : nextName first text = .ok (name, rest)) : rest.length < text.length := by
  have hgap := skipGap_length_le text
  unfold nextName at h
  split at h
  · simp at h
  · rename_i after heq
    simp only [Except.ok.injEq, Prod.mk.injEq] at h
    exact h.2 ▸ skipGap_length heq
  · rename_i after heq
    have hcomma := skipGap_length heq
    have hafter := skipGap_length_le after
    split at h
    · simp at h
    · have := map_some_length h
      omega
  · split at h
    · have := map_some_length h
      omega
    · simp at h

theorem readMember_length {members : List (Member σ)} {seen : List (List Char)}
    {name text rest : List Char} {set : σ → σ}
    (h : readMember members seen name text = .ok (set, rest)) : rest.length < text.length := by
  unfold readMember at h
  split at h
  · cases hc : skipColon text with
    | error fault => simp [hc, Except.bind, Except.map] at h
    | ok value =>
      have hcolon := skipColon_length hc
      cases hv : skipValue value with
      | error fault => simp [hc, hv, Except.bind, Except.map] at h
      | ok after =>
        have hvalue := skipValue_length hv
        simp only [hc, hv, Except.bind, Except.map, Except.ok.injEq, Prod.mk.injEq] at h
        have hlast := h.2
        subst hlast
        omega
  · rename_i m _
    split at h
    · simp at h
    · cases hc : skipColon text with
      | error fault => simp [hc, Except.bind] at h
      | ok value =>
        have hcolon := skipColon_length hc
        simp only [hc, Except.bind] at h
        have := m.reader.shorter h
        omega

/-- Reads the members of an object in whatever order they stand, up to its end. -/
def readMembers (members : List (Member σ)) (value : σ) (seen : List (List Char)) (first : Bool)
    (text : List Char) : Except Fault (σ × List Char) :=
  match _hname : nextName first text with
  | .error fault => .error fault
  | .ok (none, rest) => .ok (value, rest)
  | .ok (some name, rest) =>
    match _hmember : readMember members seen name rest with
    | .error fault => .error fault
    | .ok (set, after) => readMembers members (set value) (name :: seen) false after
termination_by text.length
decreasing_by
  have := nextName_length _hname
  have := readMember_length _hmember
  omega

theorem closeArray_length {text rest : List Char} (h : closeArray text = .ok rest) :
    rest.length < text.length := by
  unfold closeArray at h
  split at h
  · simp at h
  · rename_i after heq
    simp only [Except.ok.injEq] at h
    exact h ▸ skipGap_length heq
  · simp at h

theorem nextItem_length {first : Bool} {text item : List Char}
    (h : nextItem first text = .ok (some item)) : item.length ≤ text.length := by
  have hgap := skipGap_length_le text
  unfold nextItem at h
  split at h
  · simp at h
  · simp at h
  · rename_i after heq
    rw [heq] at hgap
    have hafter := skipGap_length_le after
    simp only [List.length_cons] at hgap
    split at h
    · simp only [Except.ok.injEq, Option.some.injEq] at h
      subst h
      simpa using hgap
    · split at h
      · simp at h
      · simp at h
      · simp only [Except.ok.injEq, Option.some.injEq] at h
        subst h
        omega
  · split at h
    · simp only [Except.ok.injEq, Option.some.injEq] at h
      subst h
      exact hgap
    · simp at h

theorem readItems_length {value value' : σ} {first : Bool} {members : List (Member σ)}
    {text rest : List Char} (h : readItems value first members text = .ok (value', rest)) :
    rest.length < text.length := by
  have hclose : ∀ {t : List Char} {v : σ},
      (closeArray t).map (v, ·) = .ok (value', rest) → rest.length < t.length := by
    intro t v hc
    cases hr : closeArray t with
    | error fault => simp [hr, Except.map] at hc
    | ok after =>
      simp only [hr, Except.map, Except.ok.injEq, Prod.mk.injEq] at hc
      exact hc.2 ▸ closeArray_length hr
  induction members generalizing value first text with
  | nil => exact hclose h
  | cons m more ih =>
    simp only [readItems] at h
    split at h
    · simp at h
    · exact hclose h
    · rename_i item hitem
      have hle := nextItem_length hitem
      split at h
      · simp at h
      · rename_i set after hrun
        have hlt := m.reader.shorter hrun
        have := ih h
        omega

theorem readMembers_length {members : List (Member σ)} {value value' : σ}
    {seen : List (List Char)} {first : Bool} {text rest : List Char}
    (h : readMembers members value seen first text = .ok (value', rest)) :
    rest.length < text.length := by
  fun_induction readMembers members value seen first text with
  | case1 => simp at h
  | case2 value seen first text r hname =>
    simp only [Except.ok.injEq, Prod.mk.injEq] at h
    exact h.2 ▸ nextName_length hname
  | case3 => simp at h
  | case4 value seen first text name r hname set after hmember ih =>
    have := nextName_length hname
    have := readMember_length hmember
    have := ih h
    omega

/-- Reads a record in either of its forms, starting from the record of its defaults. -/
def recordReader (members : List (Member σ)) (default : σ) : Reader σ where
  run text :=
    match skipGap text with
    | '[' :: rest => readItems default true members rest
    | '\x7b' :: rest => readMembers members default [] true rest
    | other => .error (mismatch other)
  shorter := by
    intro text rest value h
    split at h
    · rename_i after heq
      have := skipGap_length heq
      have := readItems_length h
      omega
    · rename_i after heq
      have := skipGap_length heq
      have := readMembers_length h
      omega
    · simp at h

end FleetTrial.Json
