import FleetTrial.Proofs.Json.Extension
import FleetTrial.Proofs.Json.Records

/-!
# Steady readers

A reader that leaves some text reads the same whatever is put behind its text. A record ends with
its closing bracket, so the reader of a record reads the same even if it leaves nothing. A text that
holds one record and nothing else can thus not go on but with blanks, and no such text begins
another one that goes on with anything else.
-/

namespace FleetTrial.Json

variable {text rest : List Char}

section Readers

/-- Whether a reader that leaves some text reads the same off a text with more at its end. The end
of a number is only seen by what follows it, so nothing is said of a reader that leaves no text. -/
structure Reader.IsSteady {α : Type} (r : Reader α) : Prop where
  nonblank : ∀ text p, r.run text = .ok p → skipGap text ≠ []
  run_more : ∀ text a rest, r.run text = .ok (a, rest) → rest ≠ [] → ∀ more,
    r.run (text ++ more) = .ok (a, rest ++ more)

variable {α β : Type}

/-- A reader stays steady if its values are mapped. -/
theorem Reader.IsSteady.map {r : Reader α} (hsteady : r.IsSteady) (f : α → β) :
    (r.map f).IsSteady where
  nonblank text p h := by
    obtain ⟨q, hrun, -⟩ := ok_of_map_eq_ok h
    exact hsteady.nonblank text q hrun
  run_more text b rest h hrest more := by
    obtain ⟨q, hrun, hq⟩ := ok_of_map_eq_ok h
    cases hq
    simp only [Reader.map, hsteady.run_more _ _ _ hrun hrest more]
    rfl

/-- A reader stays steady if it takes null as well. -/
theorem Reader.IsSteady.nullable {r : Reader α} (hsteady : r.IsSteady) :
    r.nullable.IsSteady where
  nonblank text p h := by
    simp only [Reader.nullable] at h
    split at h
    · rename_i inner hgap
      rw [hgap]
      exact List.cons_ne_nil _ _
    · obtain ⟨q, hrun, -⟩ := ok_of_map_eq_ok h
      exact hsteady.nonblank text q hrun
  run_more text a rest h hrest more := by
    simp only [Reader.nullable] at h ⊢
    split at h
    · rename_i inner hgap
      obtain ⟨after, hword, hp⟩ := ok_of_map_eq_ok h
      cases hp
      simp only [skipGap_cons_more hgap, readWord_more hword]
      rfl
    · rename_i hnull
      obtain ⟨q, hrun, hq⟩ := ok_of_map_eq_ok h
      cases hq
      have hgap := hsteady.nonblank text q hrun
      rw [skipGap_more hgap, hsteady.run_more _ _ _ hrun hrest more]
      split
      · exact absurd ‹_› (append_ne_cons hgap hnull more _)
      · rfl

/-- The reader of texts is steady. -/
theorem isSteady_textReader : textReader.IsSteady where
  nonblank text p h := by
    simp only [textReader] at h
    split at h
    · rename_i inner hgap
      rw [hgap]
      exact List.cons_ne_nil _ _
    · cases h
  run_more text s rest h _ more := by
    simp only [textReader] at h ⊢
    split at h
    · rename_i inner hgap
      obtain ⟨p, hread, hp⟩ := ok_of_map_eq_ok h
      cases hp
      simp only [skipGap_cons_more hgap, readString_more hread]
      rfl
    · cases h

/-- The reader of counts is steady. -/
theorem isSteady_countReader : countReader.IsSteady where
  nonblank text p h := by
    simp only [countReader] at h
    split at h
    · cases h
    · rename_i hgap
      rw [hgap]
      exact List.cons_ne_nil _ _
  run_more text n rest h hrest more := by
    simp only [countReader] at h ⊢
    split at h
    · cases h
    · rename_i c inner hgap
      split at h
      · rename_i hdigit
        obtain ⟨⟨numeral, after⟩, hread, hcount⟩ := ok_of_bind_eq_ok h
        obtain rfl := asCount_rest hcount
        have hmore := readNumber_more hread hrest more
        rw [List.cons_append] at hmore
        simp only [skipGap_cons_more hgap, hdigit, if_true, hmore, Except.bind]
        cases numeral with
        | count m =>
          cases hcount
          rfl
        | other => cases hcount
      · cases h

end Readers

section Records

variable {σ : Type} {members : List (Member σ)} {value value' : σ} {seen : List (List Char)}
  {first : Bool} {name : List Char}

/-- A member is read steadily if its values are. -/
theorem Member.isSteady_of {α : Type} {r : Reader α} (hsteady : r.IsSteady) (name : String)
    (set : α → σ → σ) : (Member.of name r set).reader.IsSteady :=
  hsteady.map set

/-- The closing bracket of an array is its end. -/
theorem closeArray_more (h : closeArray text = .ok rest) (more : List Char) :
    closeArray (text ++ more) = .ok (rest ++ more) := by
  unfold closeArray at h
  split at h
  · cases h
  · rename_i after hgap
    cases h
    simp only [closeArray, skipGap_cons_more hgap]
  · cases h

/-- The next item of an array is found with more text as well. -/
theorem nextItem_more {item : Option (List Char)} (h : nextItem first text = .ok item)
    (more : List Char) : nextItem first (text ++ more) = .ok (item.map (· ++ more)) := by
  unfold nextItem at h
  split at h
  · cases h
  · rename_i hgap
    cases h
    simp only [nextItem, skipGap_cons_more hgap]
    rfl
  · rename_i after hgap
    simp only [nextItem, skipGap_cons_more hgap]
    split at h
    · rename_i hfirst
      cases h
      rw [if_pos hfirst]
      rfl
    · rename_i hfirst
      rw [if_neg hfirst]
      split at h
      · cases h
      · cases h
      · rename_i hnone hbracket
        cases h
        have hne : skipGap after ≠ [] := hnone
        rw [skipGap_more hne]
        split
        · exact absurd (List.append_eq_nil_iff.mp ‹_›).1 hne
        · exact absurd ‹_› (append_ne_cons hne hbracket more _)
        · rfl
  · rename_i hnone hbracket hcomma
    have hne : skipGap text ≠ [] := hnone
    split at h
    · rename_i hfirst
      cases h
      unfold nextItem
      rw [skipGap_more hne]
      split
      · exact absurd (List.append_eq_nil_iff.mp ‹_›).1 hne
      · exact absurd ‹_› (append_ne_cons hne hbracket more _)
      · exact absurd ‹_› (append_ne_cons hne hcomma more _)
      · rw [if_pos hfirst]
        rfl
    · cases h

/-- A name ends with its quote. -/
theorem readName_more (h : readName text = .ok (name, rest)) (more : List Char) :
    readName (text ++ more) = .ok (name, rest ++ more) := by
  unfold readName at h
  split at h
  · cases h
  · rw [List.cons_append]
    exact readString_more h more
  · cases h

/-- The next name of an object is found with more text as well. -/
theorem nextName_more {name : Option (List Char)} (h : nextName first text = .ok (name, rest))
    (more : List Char) : nextName first (text ++ more) = .ok (name, rest ++ more) := by
  unfold nextName at h
  split at h
  · cases h
  · rename_i hgap
    cases h
    simp only [nextName, skipGap_cons_more hgap]
  · rename_i after hgap
    simp only [nextName, skipGap_cons_more hgap]
    split at h
    · cases h
    · rename_i hfirst
      obtain ⟨p, hname, hp⟩ := ok_of_map_eq_ok h
      cases hp
      have hne : skipGap after ≠ [] := by
        intro hnone
        rw [hnone] at hname
        cases hname
      rw [if_neg hfirst, skipGap_more hne, readName_more hname]
      rfl
  · rename_i hnone hbrace hcomma
    have hne : skipGap text ≠ [] := hnone
    split at h
    · rename_i hfirst
      obtain ⟨p, hname, hp⟩ := ok_of_map_eq_ok h
      cases hp
      unfold nextName
      rw [skipGap_more hne]
      split
      · exact absurd (List.append_eq_nil_iff.mp ‹_›).1 hne
      · exact absurd ‹_› (append_ne_cons hne hbrace more _)
      · exact absurd ‹_› (append_ne_cons hne hcomma more _)
      · rw [if_pos hfirst, readName_more hname]
        rfl
    · cases h

/-- A member that leaves some text is read in the same way with more text. -/
theorem readMember_more (hsteady : ∀ m ∈ members, m.reader.IsSteady) {set : σ → σ}
    (h : readMember members seen name text = .ok (set, rest)) (hrest : rest ≠ [])
    (more : List Char) :
    readMember members seen name (text ++ more) = .ok (set, rest ++ more) := by
  unfold readMember at h ⊢
  split at h
  · obtain ⟨after, hbind, hp⟩ := ok_of_map_eq_ok h
    cases hp
    obtain ⟨value, hcolon, hvalue⟩ := ok_of_bind_eq_ok hbind
    simp only [skipColon_more hcolon, Except.bind, skipValue_more hvalue hrest]
    rfl
  · rename_i m hfind
    split at h
    · cases h
    · rename_i hseen
      obtain ⟨value, hcolon, hvalue⟩ := ok_of_bind_eq_ok h
      have hrun := (hsteady m (List.mem_of_find?_eq_some hfind)).run_more _ _ _ hvalue hrest more
      simp only [if_neg hseen, skipColon_more hcolon, Except.bind, hrun]

/-- The members of an object end with its closing brace. -/
theorem readMembers_more (hsteady : ∀ m ∈ members, m.reader.IsSteady)
    (h : readMembers members value seen first text = .ok (value', rest)) (more : List Char) :
    readMembers members value seen first (text ++ more) = .ok (value', rest ++ more) := by
  fun_induction readMembers members value seen first text with
  | case1 => cases h
  | case2 value seen first text r hname =>
    cases h
    exact readMembers_of_none (nextName_more hname more)
  | case3 => cases h
  | case4 value seen first text name r hname set after hmember ih =>
    -- The object has not ended with this member, so the member leaves some text.
    have hafter : after ≠ [] := List.ne_nil_of_length_pos (Nat.zero_lt_of_lt (readMembers_length h))
    rw [readMembers_of_ok (nextName_more hname more) (readMember_more hsteady hmember hafter more)]
    exact ih h

/-- The items of an array end with its closing bracket. -/
theorem readItems_more (hsteady : ∀ m ∈ members, m.reader.IsSteady)
    (h : readItems value first members text = .ok (value', rest)) (more : List Char) :
    readItems value first members (text ++ more) = .ok (value', rest ++ more) := by
  induction members generalizing value first text with
  | nil =>
    obtain ⟨after, hclose, hp⟩ := ok_of_map_eq_ok h
    cases hp
    simp only [readItems, closeArray_more hclose]
    rfl
  | cons m members ih =>
    simp only [readItems] at h ⊢
    split at h
    · cases h
    · rename_i hnext
      obtain ⟨after, hclose, hp⟩ := ok_of_map_eq_ok h
      cases hp
      simp only [nextItem_more hnext, closeArray_more hclose]
      rfl
    · rename_i item hnext
      split at h
      · cases h
      · rename_i set after hrun
        have hafter : after ≠ [] :=
          List.ne_nil_of_length_pos (Nat.zero_lt_of_lt (readItems_length h))
        have hmore := (hsteady m List.mem_cons_self).run_more _ _ _ hrun hafter more
        simp only [nextItem_more hnext, Option.map_some, hmore]
        exact ih (fun m hm => hsteady m (List.mem_cons_of_mem _ hm)) h

/-- A record ends with its closing bracket, so that it may leave no text. -/
theorem recordReader_more (hsteady : ∀ m ∈ members, m.reader.IsSteady)
    (h : (recordReader members value).run text = .ok (value', rest)) (more : List Char) :
    (recordReader members value).run (text ++ more) = .ok (value', rest ++ more) := by
  simp only [recordReader] at h ⊢
  split at h
  · rename_i inner hgap
    simp only [skipGap_cons_more hgap]
    exact readItems_more hsteady h more
  · rename_i inner hgap
    simp only [skipGap_cons_more hgap]
    exact readMembers_more hsteady h more
  · cases h

/-- The reader of a record is steady if its members are read steadily. -/
theorem isSteady_recordReader (hsteady : ∀ m ∈ members, m.reader.IsSteady) :
    (recordReader members value).IsSteady where
  nonblank text p h := by
    simp only [recordReader] at h
    split at h
    · rename_i hgap
      rw [hgap]
      exact List.cons_ne_nil _ _
    · rename_i hgap
      rw [hgap]
      exact List.cons_ne_nil _ _
    · cases h
  run_more text a rest h _ more := recordReader_more hsteady h more

/-- A text that holds one record and nothing else may go on with blanks, and goes on with nothing
else. -/
theorem whole_recordReader_more (hsteady : ∀ m ∈ members, m.reader.IsSteady)
    (h : (recordReader members value).whole text = .ok value') (more : List Char) :
    (recordReader members value).whole (text ++ more) =
      if (skipGap more).isEmpty then .ok value' else .error .malformed := by
  unfold Reader.whole at h ⊢
  split at h
  · cases h
  · rename_i a rest hrun
    split at h
    · rename_i hrest
      cases h
      rw [recordReader_more hsteady hrun more]
      simp only [skipGap, List.dropWhile_append] at hrest ⊢
      rw [if_pos hrest]
      rfl
    · cases h

end Records

end FleetTrial.Json
