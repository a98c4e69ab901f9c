/-!
# Splitting a text at a character

A header is split at its first colon, a collector's address at its last one. Both cuts drop
the separator and keep everything else.
-/

namespace FleetTrial.Text

/-- The parts before and after the first `sep`; `none` if there is none. -/
def splitFirst (sep : Char) : List Char → Option (List Char × List Char)
  | [] => none
  | c :: rest =>
    if c = sep then some ([], rest)
    else (splitFirst sep rest).map fun (before, after) => (c :: before, after)

/-- The parts before and after the last `sep`; `none` if there is none. -/
def splitLast (sep : Char) (text : List Char) : Option (List Char × List Char) :=
  (splitFirst sep text.reverse).map fun (after, before) => (before.reverse, after.reverse)

/-- A cut at the first separator loses nothing but that separator. -/
theorem eq_of_splitFirst {sep : Char} {text before after : List Char}
    (h : splitFirst sep text = some (before, after)) :
    text = before ++ sep :: after ∧ sep ∉ before := by
  induction text generalizing before with
  | nil => simp [splitFirst] at h
  | cons c rest ih =>
    by_cases hc : c = sep
    · simp only [splitFirst, hc, if_true, Option.some.injEq, Prod.mk.injEq] at h
      obtain ⟨rfl, rfl⟩ := h
      simp [hc]
    · simp only [splitFirst, hc, if_false, Option.map_eq_some_iff] at h
      obtain ⟨⟨b, a⟩, hrest, heq⟩ := h
      simp only [Prod.mk.injEq] at heq
      obtain ⟨rfl, rfl⟩ := heq
      obtain ⟨htext, hnot⟩ := ih hrest
      refine ⟨by simp [htext], ?_⟩
      simp [hnot, Ne.symm hc]

/-- A text is cut at its first separator. -/
theorem splitFirst_append {sep : Char} {before : List Char} (hnot : sep ∉ before)
    (after : List Char) : splitFirst sep (before ++ sep :: after) = some (before, after) := by
  induction before with
  | nil => simp [splitFirst]
  | cons c before ih =>
    obtain ⟨hc, hbefore⟩ := List.ne_and_not_mem_of_not_mem_cons hnot
    simp [splitFirst, Ne.symm hc, ih hbefore]

/-- A text is cut at its last separator. -/
theorem splitLast_append {sep : Char} {after : List Char} (hnot : sep ∉ after)
    (before : List Char) : splitLast sep (before ++ sep :: after) = some (before, after) := by
  have hreverse : (before ++ sep :: after).reverse = after.reverse ++ sep :: before.reverse := by
    simp
  rw [splitLast, hreverse, splitFirst_append (by rwa [List.mem_reverse])]
  simp

/-- There is no cut exactly when the separator does not occur. -/
theorem splitFirst_eq_none_iff {sep : Char} {text : List Char} :
    splitFirst sep text = none ↔ sep ∉ text := by
  induction text with
  | nil => simp [splitFirst]
  | cons c rest ih =>
    by_cases hc : c = sep
    · simp [splitFirst, hc]
    · simp [splitFirst, hc, ih, Ne.symm hc]

end FleetTrial.Text
