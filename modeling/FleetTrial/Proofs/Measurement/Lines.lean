import FleetTrial.Proofs.Measurement.Recording
import FleetTrial.Proofs.Measurement.Stream
import FleetTrial.Proofs.Text.Lines

/-!
# The lines that a collector counts

A collector takes a stream apart at the line ends, and finds the label of a line between the
namespace and the next blank. If the namespace has no line end, and no label has a dot, a blank or a
line end, each event is found in a line of its own under its own label. So counting the lines of a
label is counting its events.
-/

namespace FleetTrial

namespace Event

/-- Whether a collector takes a label as it is, and finds it again in its line. -/
def IsPlain (label : String) : Prop :=
  '.' ∉ label.toList ∧ ' ' ∉ label.toList ∧ '\n' ∉ label.toList

instance (label : String) : Decidable (IsPlain label) :=
  inferInstanceAs (Decidable (_ ∧ _ ∧ _))

/-- The lines of a text without their line ends. What comes behind the last line end is no line. -/
def linesOf (text : String) : List (List Char) := (text.toList.splitOn '\n').dropLast

/-- The line of an event with a plain label, without the line end. -/
def body (space : String) (e : Event) : List Char :=
  space.toList ++ '.' :: (e.label.toList ++ ' ' :: (e.value.toNat.repr.toList ++
    ' ' :: (toString e.observedAt).toList))

variable {space label : String} {e : Event} {events : List Event}

/-- A label without dots is taken as it is. -/
theorem plainLabel_eq_self (hdot : '.' ∉ label.toList) : plainLabel label = label := by
  have hmap : (label.toList.map fun c => if c = '.' then '-' else c) = label.toList := by
    refine (List.map_congr_left fun c hc => ?_).trans (List.map_id _)
    have hne : c ≠ '.' := fun heq => hdot (heq ▸ hc)
    exact if_neg hne
  rw [plainLabel, hmap, String.ofList_toList]

/-- A line ends with its line end. -/
theorem toList_line (hplain : IsPlain e.label) :
    (e.line space).toList = body space e ++ ['\n'] := by
  simp only [line, plainLabel_eq_self hplain.1, String.toList_append, body, List.append_assoc,
    List.cons_append]
  rfl

/-- A line has no line end but that at its end. -/
theorem newline_not_mem_body (hspace : '\n' ∉ space.toList) (hplain : IsPlain e.label) :
    '\n' ∉ body space e := by
  simp only [body, List.mem_append, List.mem_cons, not_or]
  exact ⟨hspace, by decide, hplain.2.2, by decide, not_mem_repr (by decide) _, by decide,
    not_mem_toString (by decide) (by decide) _⟩

/-- A stream is taken apart into the lines of its events. -/
theorem splitOn_stream (hspace : '\n' ∉ space.toList) (hplain : ∀ e ∈ events, IsPlain e.label) :
    (stream space events).toList.splitOn '\n' = events.map (body space) ++ [[]] := by
  have hline (e : Event) (he : e ∈ events) :
      e.line space = String.ofList (body space e) ++ "\n" := by
    rw [← String.toList_inj, toList_line (hplain e he), String.toList_append, String.toList_ofList]
    rfl
  have hstream : stream space events =
      Text.unlines (events.map fun e => String.ofList (body space e)) ++ "" := by
    rw [String.append_empty, stream, Text.unlines, List.map_map]
    exact congrArg String.join (List.map_congr_left hline)
  have hbodies : ∀ row ∈ events.map fun e => String.ofList (body space e),
      Text.IsUnbroken row := by
    rw [List.forall_mem_map]
    intro e he
    rw [Text.IsUnbroken, String.toList_ofList]
    exact newline_not_mem_body hspace (hplain e he)
  rw [hstream, Text.splitOn_unlines_append hbodies, List.map_map]
  exact congrArg (· ++ [[]]) (List.map_congr_left fun e _ => String.toList_ofList)

end Event

end FleetTrial
