import FleetTrial.Text.Blank
import Mathlib.Data.List.TakeWhile

/-!
# Texts without the blanks around them

A text is trimmed of the blanks at both its ends and of nothing else: what is left begins and ends
with characters that are no blanks, and there is only one way to take a text apart like that. So the
trimmed text is found by showing how the text is made of it.
-/

namespace FleetTrial.Text

/-- Whether a text neither begins nor ends with a blank. -/
structure IsBare (text : List Char) : Prop where
  head : ∀ c ∈ text.head?, isBlank c = false
  last : ∀ c ∈ text.getLast?, isBlank c = false

variable {text before bare after : List Char}

/-- Nothing is dropped in front of a character that is no blank. -/
theorem dropWhile_blank_eq_self (hhead : ∀ c ∈ text.head?, isBlank c = false) :
    text.dropWhile isBlank = text := by
  cases text with
  | nil => rfl
  | cons c rest =>
    have hc : isBlank c = false := hhead c rfl
    exact List.dropWhile_cons_of_neg (by rw [hc]; exact Bool.false_ne_true)

/-- Behind the blanks that are dropped stands none. -/
theorem head?_dropWhile_blank (text : List Char) :
    ∀ c ∈ (text.dropWhile isBlank).head?, isBlank c = false := by
  intro c hc
  have hnot := List.head?_dropWhile_not isBlank text
  rw [Option.mem_def.mp hc] at hnot
  exact hnot

/-- Blanks in front of a text are dropped. -/
theorem dropWhile_blank_append (hbefore : ∀ c ∈ before, isBlank c = true)
    (hhead : ∀ c ∈ text.head?, isBlank c = false) : (before ++ text).dropWhile isBlank = text := by
  rw [List.dropWhile_append_of_pos hbefore, dropWhile_blank_eq_self hhead]

/-- A text that neither begins nor ends with a blank is what is left of it between any blanks. -/
theorem IsBare.trim_append (hbare : IsBare bare) (hbefore : ∀ c ∈ before, isBlank c = true)
    (hafter : ∀ c ∈ after, isBlank c = true) : trim (before ++ bare ++ after) = bare := by
  have hreverse : ∀ c ∈ after.reverse, isBlank c = true := fun c hc =>
    hafter c (List.mem_reverse.mp hc)
  have hlast : ∀ c ∈ bare.reverse.head?, isBlank c = false := by
    rw [List.head?_reverse]
    exact hbare.last
  rw [trim, List.append_assoc, List.dropWhile_append_of_pos hbefore]
  cases bare with
  | nil =>
    have hnone : ([] ++ after).dropWhile isBlank = [] := List.dropWhile_eq_nil_iff.mpr hafter
    rw [hnone]
    rfl
  | cons c rest =>
    have hhead : ∀ d ∈ (c :: rest ++ after).head?, isBlank d = false := hbare.head
    rw [dropWhile_blank_eq_self hhead, List.reverse_append,
      dropWhile_blank_append hreverse hlast, List.reverse_reverse]

/-- The blanks in front of a text and the text behind them. -/
theorem exists_dropWhile_blank (text : List Char) :
    ∃ before, text = before ++ text.dropWhile isBlank ∧ ∀ c ∈ before, isBlank c = true :=
  ⟨text.takeWhile isBlank, List.takeWhile_append_dropWhile.symm,
    fun _ hc => List.mem_takeWhile_imp hc⟩

/-- Whether a text is made of another one and blanks around it, and that one neither begins nor ends
with a blank. -/
def IsTrimmed (text bare : List Char) : Prop :=
  IsBare bare ∧ ∃ before after, text = before ++ bare ++ after ∧
    (∀ c ∈ before, isBlank c = true) ∧ ∀ c ∈ after, isBlank c = true

/-- A text is what is left of it between the blanks that it is trimmed of. -/
theorem isTrimmed_trim (text : List Char) : IsTrimmed text (trim text) := by
  obtain ⟨before, hbefore, hblank⟩ := exists_dropWhile_blank text
  obtain ⟨after, hafter, hblank'⟩ := exists_dropWhile_blank (text.dropWhile isBlank).reverse
  have htext : text.dropWhile isBlank = trim text ++ after.reverse := by
    have hreverse := congrArg List.reverse hafter
    rwa [List.reverse_reverse, List.reverse_append] at hreverse
  refine ⟨⟨fun c hc => ?_, ?_⟩, before, after.reverse, ?_, hblank, fun c hc =>
    hblank' c (List.mem_reverse.mp hc)⟩
  · have hhead := head?_dropWhile_blank text c
    rw [htext, List.head?_append, Option.mem_def.mp hc] at hhead
    exact hhead rfl
  · rw [trim, List.getLast?_reverse]
    exact head?_dropWhile_blank _
  · rw [List.append_assoc, ← htext]
    exact hbefore

/-- There is only one way to trim a text. -/
theorem IsTrimmed.trim_eq (htrimmed : IsTrimmed text bare) : trim text = bare := by
  obtain ⟨hbare, before, after, rfl, hbefore, hafter⟩ := htrimmed
  exact hbare.trim_append hbefore hafter

/-- A text without characters other than those of a class, in front of one that does not begin with
such a character, is told by the two together. -/
theorem append_inj_of_class {p : Char → Bool} {left left' right right' : List Char}
    (hleft : ∀ c ∈ left, p c = true) (hleft' : ∀ c ∈ left', p c = true)
    (hright : ∀ c ∈ right.head?, p c = false) (hright' : ∀ c ∈ right'.head?, p c = false)
    (heq : left ++ right = left' ++ right') : left = left' ∧ right = right' := by
  have hnone {rest : List Char} (hrest : ∀ c ∈ rest.head?, p c = false) :
      rest.takeWhile p = [] := by
    cases rest with
    | nil => rfl
    | cons c rest =>
      have hc : p c = false := hrest c rfl
      exact List.takeWhile_cons_of_neg (by rw [hc]; exact Bool.false_ne_true)
  have htake := congrArg (List.takeWhile p) heq
  rw [List.takeWhile_append_of_pos hleft, List.takeWhile_append_of_pos hleft', hnone hright,
    hnone hright', List.append_nil, List.append_nil] at htake
  subst htake
  exact ⟨rfl, List.append_cancel_left heq⟩

end FleetTrial.Text
