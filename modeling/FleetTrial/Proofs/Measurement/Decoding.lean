import Mathlib
import FleetTrial.Proofs.Measurement.Lines
import FleetTrial.Proofs.Settings.Soundness

/-!
# Decoding a collector's stream

A collector gets back what was measured by taking the stream apart: at the line ends, each line at
its blanks, and its first field at the last dot. The namespace may hold dots itself. The cut still
falls between namespace and label, because a label goes out with hyphens for its dots, and the check
of the settings keeps blanks out of the namespace.

An event goes out like its plain form, whose label is spelt with hyphens. That form meets what the
lines of plain labels need, so their lemmas speak about all events whose labels hold no blank.
-/

namespace FleetTrial.Event

/-- What a collector finds in a line. -/
structure Fields where
  space : List Char
  label : List Char
  value : List Char
  observedAt : List Char
  deriving DecidableEq, Repr

/-- Takes a line apart at its blanks, and the first of its three fields at the last dot. -/
def readLine (line : List Char) : Option Fields :=
  match line.splitOn ' ' with
  | [name, value, observedAt] =>
    (Text.splitLast '.' name).map fun (space, label) => ⟨space, label, value, observedAt⟩
  | _ => none

/-- The fields of an event: the namespace, its label with hyphens for dots, and its value and its
time as decimal numbers. -/
def fields (space : String) (e : Event) : Fields :=
  ⟨space.toList, (plainLabel e.label).toList, e.value.toNat.repr.toList,
    (toString e.observedAt).toList⟩

/-- An event with hyphens for the dots of its label. -/
def plain (e : Event) : Event := { e with label := plainLabel e.label }

/-- What a line tells of an event. The size is not on the wire. -/
def told (e : Event) : String × UInt64 × Int := (plainLabel e.label, e.value, e.observedAt)

/-- Whether a label holds no blank. -/
def IsUnbroken (label : String) : Prop := ∀ c ∈ label.toList, Text.isBlank c = false

instance (label : String) : Decidable (IsUnbroken label) :=
  List.decidableBAll _ label.toList

variable {space label : String} {e : Event} {events later : List Event}

/-- A character of a plain label is a hyphen, or stood in the label and is no dot. -/
theorem of_mem_plainLabel {c : Char} (hmem : c ∈ (plainLabel label).toList) :
    c = '-' ∨ c ∈ label.toList ∧ c ≠ '.' := by
  rw [plainLabel, String.toList_ofList, List.mem_map] at hmem
  obtain ⟨original, horiginal, heq⟩ := hmem
  split at heq
  · exact .inl heq.symm
  · rename_i hdot
    exact .inr (heq ▸ ⟨horiginal, hdot⟩)

/-- A plain label has no dots. -/
theorem dot_not_mem_plainLabel (label : String) : '.' ∉ (plainLabel label).toList := by
  intro hmem
  obtain hhyphen | ⟨_, hdot⟩ := of_mem_plainLabel hmem
  · exact absurd hhyphen (by decide)
  · exact hdot rfl

/-- The plain form of a label without blanks is found again in its line. -/
theorem IsUnbroken.isPlain (hlabel : IsUnbroken label) : IsPlain (plainLabel label) := by
  have hblank {c : Char} (hc : Text.isBlank c = true) (hhyphen : c ≠ '-') :
      c ∉ (plainLabel label).toList := by
    intro hmem
    obtain heq | ⟨horiginal, _⟩ := of_mem_plainLabel hmem
    · exact hhyphen heq
    · rw [hlabel c horiginal] at hc
      cases hc
  exact ⟨dot_not_mem_plainLabel label, hblank (by decide) (by decide),
    hblank (by decide) (by decide)⟩

/-- An event goes out like its plain form. -/
theorem line_plain (space : String) (e : Event) : (plain e).line space = e.line space := by
  rw [line, line, plain, plainLabel_eq_self (dot_not_mem_plainLabel e.label)]

/-- Events go out like their plain forms. -/
theorem stream_map_plain (space : String) (events : List Event) :
    stream space (events.map plain) = stream space events := by
  rw [stream, List.map_map, stream]
  exact congrArg String.join (List.map_congr_left fun e _ => line_plain space e)

/-- The line of an event with a plain label is taken apart into the fields of the event. -/
theorem readLine_body (hspace : ' ' ∉ space.toList) (hplain : IsPlain e.label) :
    readLine (body space e) = some (fields space e) := by
  have hname : ' ' ∉ space.toList ++ '.' :: e.label.toList := by
    simp only [List.mem_append, List.mem_cons, not_or]
    exact ⟨hspace, by decide, hplain.2.1⟩
  have hsplit : (body space e).splitOn ' ' = [space.toList ++ '.' :: e.label.toList,
      e.value.toNat.repr.toList, (toString e.observedAt).toList] := by
    have hbody : body space e = (space.toList ++ '.' :: e.label.toList) ++ ' ' ::
        (e.value.toNat.repr.toList ++ ' ' :: (toString e.observedAt).toList) := by
      simp only [body, List.append_assoc, List.cons_append]
    rw [hbody, List.splitOn_append_cons_self_of_not_mem hname,
      List.splitOn_append_cons_self_of_not_mem (not_mem_repr (by decide) _),
      List.splitOn_eq_singleton (not_mem_toString (by decide) (by decide) _)]
  simp only [readLine, hsplit, Text.splitLast_append hplain.1, Option.map_some, fields,
    plainLabel_eq_self hplain.1]

/-- A stream is taken apart into one line for each event, and nothing behind the last of them. -/
theorem splitOn_stream_of_isUnbroken (hline : '\n' ∉ space.toList)
    (hlabels : ∀ e ∈ events, IsUnbroken e.label) :
    (stream space events).toList.splitOn '\n' =
      events.map (fun e => body space (plain e)) ++ [[]] := by
  have hplain : ∀ e ∈ events.map plain, IsPlain e.label := by
    intro e he
    obtain ⟨original, horiginal, rfl⟩ := List.mem_map.mp he
    exact (hlabels original horiginal).isPlain
  rw [← stream_map_plain, splitOn_stream hline hplain, List.map_map]
  rfl

/-- The lines of a stream are taken apart into the fields of the events, in their order. -/
theorem map_readLine_linesOf (hblank : ' ' ∉ space.toList) (hline : '\n' ∉ space.toList)
    (hlabels : ∀ e ∈ events, IsUnbroken e.label) :
    (linesOf (stream space events)).map readLine = events.map fun e => some (fields space e) := by
  rw [linesOf, splitOn_stream_of_isUnbroken hline hlabels, List.dropLast_concat, List.map_map]
  refine List.map_congr_left fun e he => ?_
  have hplain : IsPlain (plain e).label := (hlabels e he).isPlain
  rw [Function.comp_apply, readLine_body hblank hplain, fields, plainLabel_eq_self hplain.1]
  rfl

/-- Fields of one namespace agree exactly when they tell the same. -/
theorem fields_inj {e' : Event} : fields space e = fields space e' ↔ told e = told e' := by
  simp only [fields, Fields.mk.injEq, true_and, String.toList_inj, told, Prod.mk.injEq]
  refine and_congr_right fun _ => and_congr ?_ ?_
  · rw [Nat.repr_inj, UInt64.toNat_inj]
  · exact Int.repr_inj

/-- Events that tell the same go out alike. -/
theorem stream_congr (htold : events.map told = later.map told) :
    stream space events = stream space later := by
  have hline : line space = (fun t : String × UInt64 × Int => space ++ "." ++ t.1 ++ " " ++
      toString t.2.1.toNat ++ " " ++ toString t.2.2 ++ "\n") ∘ told := rfl
  rw [stream, stream, hline, ← List.map_map, ← List.map_map, htold]

/-- Events go out alike exactly when they tell the same. -/
theorem stream_inj (hblank : ' ' ∉ space.toList) (hline : '\n' ∉ space.toList)
    (hlabels : ∀ e ∈ events, IsUnbroken e.label) (hlater : ∀ e ∈ later, IsUnbroken e.label) :
    stream space events = stream space later ↔ events.map told = later.map told := by
  refine ⟨fun hstream => ?_, stream_congr⟩
  have hfields : events.map (fun e => some (fields space e)) =
      later.map fun e => some (fields space e) := by
    rw [← map_readLine_linesOf hblank hline hlabels, hstream,
      map_readLine_linesOf hblank hline hlater]
  rw [← List.forall₂_eq_eq_eq, List.forall₂_map_left_iff, List.forall₂_map_right_iff] at hfields ⊢
  exact hfields.imp fun _ _ heq => fields_inj.mp (Option.some.inj heq)

/-- Events that tell the same and have the same sizes have the same plain forms. -/
theorem map_plain_eq_of_told (htold : events.map told = later.map told)
    (hsize : events.map (·.size) = later.map (·.size)) : events.map plain = later.map plain := by
  induction events generalizing later with
  | nil =>
    rw [List.map_eq_nil_iff.mp htold.symm]
  | cons e events ih =>
    cases later with
    | nil => cases htold
    | cons e' later =>
      simp only [List.map_cons, List.cons.injEq, told, Prod.mk.injEq] at htold hsize
      obtain ⟨⟨hlabel, hvalue, hobserved⟩, htold⟩ := htold
      have hplain : plain e = plain e' := by
        simp only [plain, hlabel, hvalue, hobserved, hsize.1]
      rw [List.map_cons, List.map_cons, hplain, ih htold hsize.2]

/-- A namespace that passes the check of the settings holds no blank. -/
theorem isBlank_of_mem_space {m : Metrics} (hchecked : m.check = .ok ()) {c : Char}
    (hmem : c ∈ m.space.toList) : Text.isBlank c = false := by
  unfold Metrics.check at hchecked
  obtain ⟨_, hspace, _⟩ := ok_of_bind_eq_ok hchecked
  have hnone := not_bad_of_refuseIf hspace
  rw [Bool.or_eq_false_iff, List.any_eq_false] at hnone
  exact Bool.eq_false_iff.mpr (hnone.2 c hmem)

/-- **A stream is uniquely decodable.** Under a namespace that passes the check of the settings, and
with labels that hold no blank, a stream is one line for each event with nothing behind the last.
Each line is taken apart into the namespace, the label with hyphens for its dots, the value and the
time. So two streams are equal exactly when their events tell the same in the same order, and then
the events are the same up to the dots of their labels, and up to their sizes. -/
theorem stream_uniquely_decodable {m : Metrics} (hchecked : m.check = .ok ())
    (hlabels : ∀ e ∈ events, IsUnbroken e.label) :
    (stream m.space events).toList.splitOn '\n' = linesOf (stream m.space events) ++ [[]] ∧
    (linesOf (stream m.space events)).map readLine =
      events.map (fun e => some (fields m.space e)) ∧
    ∀ later : List Event, (∀ e ∈ later, IsUnbroken e.label) →
      (stream m.space events = stream m.space later ↔ events.map told = later.map told) ∧
      (stream m.space events = stream m.space later →
        events.map (·.size) = later.map (·.size) → events.map plain = later.map plain) := by
  have hnot {c : Char} (hc : Text.isBlank c = true) : c ∉ m.space.toList := by
    intro hmem
    rw [isBlank_of_mem_space hchecked hmem] at hc
    cases hc
  have hblank : ' ' ∉ m.space.toList := hnot (by decide)
  have hline : '\n' ∉ m.space.toList := hnot (by decide)
  refine ⟨?_, map_readLine_linesOf hblank hline hlabels, fun later hlater => ?_⟩
  · rw [linesOf, splitOn_stream_of_isUnbroken hline hlabels, List.dropLast_concat]
  · have hinj := stream_inj hblank hline hlabels hlater
    exact ⟨hinj, fun hstream => map_plain_eq_of_told (hinj.mp hstream)⟩

/-- Two events under a namespace with a dot, one of them with dots in its label and made before the
epoch. -/
def dotted : List Event := [⟨"Game.Server.Ready", 452, 0, -5⟩, ⟨"ReadyReplicas", 42, 0, 1700000123⟩]

/-- The fields of the dotted events are found at the last dots of their lines, and their plain forms
go out alike. -/
theorem readLine_dotted :
    (Metrics.mk none "load.test").check = .ok () ∧ (∀ e ∈ dotted, IsUnbroken e.label) ∧
    (linesOf (stream "load.test" dotted)).map readLine =
      [some ⟨"load.test".toList, "Game-Server-Ready".toList, "452".toList, "-5".toList⟩,
       some ⟨"load.test".toList, "ReadyReplicas".toList, "42".toList, "1700000123".toList⟩] ∧
    (∀ e ∈ dotted.map plain, IsUnbroken e.label) ∧
    stream "load.test" dotted = stream "load.test" (dotted.map plain) := by
  have hchecked : (Metrics.mk none "load.test").check = .ok () := by rfl
  have hlabels : ∀ e ∈ dotted, IsUnbroken e.label := by decide
  have hplain : ∀ e ∈ dotted.map plain, IsUnbroken e.label := by decide
  have hfields : dotted.map (fun e => some (fields "load.test" e)) =
      [some ⟨"load.test".toList, "Game-Server-Ready".toList, "452".toList, "-5".toList⟩,
       some ⟨"load.test".toList, "ReadyReplicas".toList, "42".toList, "1700000123".toList⟩] := by
    decide +kernel
  have htold : dotted.map told = (dotted.map plain).map told := by decide
  obtain ⟨_, hread, hinj⟩ := stream_uniquely_decodable hchecked hlabels
  exact ⟨hchecked, hlabels, hread.trans hfields, hplain, (hinj _ hplain).1.mpr htold⟩

end FleetTrial.Event
