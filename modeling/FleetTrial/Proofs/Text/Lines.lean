import FleetTrial.Proofs.Text.Digits
import FleetTrial.Text.Row
import FleetTrial.Text.Split

/-!
# Lines and rows

Rows that are printed one after another make a text, and as long as no row has a line end of its
own the lines of the text are the rows again. A row is known by its name, which stands in front of
its first colon. So the rows from one name through another can be found again in what was printed.
-/

namespace FleetTrial.Text

variable {rows before middle : List String} {opening closing name other : String}

theorem unlines_append (rows later : List String) :
    unlines (rows ++ later) = unlines rows ++ unlines later := by
  rw [unlines, List.map_append, String.join_append, unlines, unlines]

/-- Whether a text has no line end. -/
def IsUnbroken (text : String) : Prop := '\n' ∉ text.toList

instance (text : String) : Decidable (IsUnbroken text) := inferInstanceAs (Decidable (_ ∉ _))

@[simp] theorem isUnbroken_append {left right : String} :
    IsUnbroken (left ++ right) ↔ IsUnbroken left ∧ IsUnbroken right := by
  rw [IsUnbroken, String.toList_append, List.mem_append, not_or]
  rfl

/-- There is no line end in a number. -/
@[simp] theorem isUnbroken_repr (n : Nat) : IsUnbroken n.repr := not_mem_repr (by decide) n

/-- There is no line end in a gap. -/
@[simp] theorem isUnbroken_gap (width used : Nat) : IsUnbroken (gap width used) := by
  rw [IsUnbroken, gap, String.toList_ofList]
  exact fun hmem => nomatch List.eq_of_mem_replicate hmem

/-- A row has a line end only in its name or in its value. -/
@[simp] theorem isUnbroken_row {value : String} :
    IsUnbroken (Text.row name value) ↔ IsUnbroken name ∧ IsUnbroken value := by
  simp +decide [Text.row, padRight]

/-- A text that begins with rows without line ends is taken apart into these first. -/
theorem splitOn_unlines_append (hrows : ∀ row ∈ rows, IsUnbroken row) (text : String) :
    (unlines rows ++ text).toList.splitOn '\n' =
      rows.map String.toList ++ text.toList.splitOn '\n' := by
  induction rows with
  | nil => exact congrArg (fun text => text.toList.splitOn '\n') String.empty_append
  | cons row rows ih =>
    obtain ⟨hrow, hrows⟩ := List.forall_mem_cons.mp hrows
    have hfirst : (unlines (row :: rows) ++ text).toList =
        row.toList ++ '\n' :: (unlines rows ++ text).toList := by
      rw [unlines, List.map_cons, String.join_cons]
      simp only [String.toList_append, List.append_assoc]
      rfl
    rw [hfirst, List.splitOn_append_cons_self_of_not_mem hrow, List.map_cons, List.cons_append,
      ih hrows]

/-- The lines of a text, without their line ends; behind the last line end comes one more. -/
def lines (text : String) : List String := (text.toList.splitOn '\n').map String.ofList

/-- Rows without line ends are the first lines of a text that begins with them. -/
theorem lines_unlines_append (hrows : ∀ row ∈ rows, IsUnbroken row) (text : String) :
    lines (unlines rows ++ text) = rows ++ lines text := by
  have hself : String.ofList ∘ String.toList = id := funext fun _ => String.ofList_toList
  rw [lines, splitOn_unlines_append hrows, List.map_append, List.map_map, hself, List.map_id, lines]

/-- Whether a row is about what has some name. -/
def isRowOf (name row : String) : Bool := ("   " ++ name ++ ":").toList.isPrefixOf row.toList

/-- A row is about what it names, and about nothing else. -/
theorem isRowOf_row (hname : ':' ∉ name.toList) (hother : ':' ∉ other.toList) (value : String) :
    isRowOf name (Text.row other value) = decide (name = other) := by
  have hmark : ("   " ++ name ++ ":").toList = "   ".toList ++ (name.toList ++ [':']) := by
    simp only [String.toList_append, List.append_assoc]
    rfl
  let rest := (gap rowWidth (other ++ ":").length).toList ++ value.toList
  have hrow : (Text.row other value).toList = "   ".toList ++ (other.toList ++ ':' :: rest) := by
    simp only [Text.row, padRight, String.toList_append, List.append_assoc]
    rfl
  rw [isRowOf, hmark, hrow, Bool.eq_iff_iff, List.isPrefixOf_iff_prefix,
    List.prefix_append_right_inj, decide_eq_true_eq]
  constructor
  · rintro ⟨value', hvalue⟩
    rw [List.append_assoc, List.singleton_append] at hvalue
    have hsplit := splitFirst_append hname value'
    rw [hvalue, splitFirst_append hother] at hsplit
    exact String.toList_inj.mp (Prod.mk.inj (Option.some.inj hsplit)).1.symm
  · rintro rfl
    exact ⟨rest, by rw [List.append_assoc, List.singleton_append]⟩

/-- The rows from the first one about `first` through the next one about `last`. -/
def rowsBetween (first last : String) (rows : List String) : List String :=
  let rest := rows.dropWhile fun row => !isRowOf first row
  rest.take ((rest.takeWhile fun row => !isRowOf last row).length + 1)

/-- Rows are found between others by the first and the last of them. -/
theorem rowsBetween_append {first last : String}
    (hbefore : ∀ row ∈ before, isRowOf first row = false) (hopening : isRowOf first opening = true)
    (hmiddle : ∀ row ∈ opening :: middle, isRowOf last row = false)
    (hclosing : isRowOf last closing = true) (after : List String) :
    rowsBetween first last (before ++ (opening :: middle ++ closing :: after)) =
      opening :: middle ++ [closing] := by
  have hdrop : (before ++ (opening :: middle ++ closing :: after)).dropWhile
      (fun row => !isRowOf first row) = opening :: middle ++ closing :: after := by
    rw [List.dropWhile_append_of_pos fun row hrow => by rw [hbefore row hrow]; rfl]
    exact List.dropWhile_cons_of_neg (by rw [hopening]; decide)
  have htake : (opening :: middle ++ closing :: after).takeWhile
      (fun row => !isRowOf last row) = opening :: middle := by
    rw [List.takeWhile_append_of_pos fun row hrow => by rw [hmiddle row hrow]; rfl,
      List.takeWhile_cons_of_neg (by rw [hclosing]; decide), List.append_nil]
  simp only [rowsBetween, hdrop, htake]
  rw [List.take_length_add_append]
  rfl

end FleetTrial.Text
