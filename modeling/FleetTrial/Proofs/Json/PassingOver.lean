import FleetTrial.Json.Skip
import FleetTrial.Proofs.Json.Scalars

/-!
# Passing over values

A value that nobody asked for is passed over whatever it is: the skipping of a value stops exactly
where the grammar has it end, to whatever depth it nests and whatever names occur inside. The open
arrays and objects around the value stay as they are, which is what the induction on the value needs
of the values inside it.
-/

namespace FleetTrial.Json

variable {text rest : List Char} {stack : List Frame}

/-- Nothing is dropped in front of a character that is no blank. -/
theorem skipGap_cons {c : Char} (hc : isGap c = false) (rest : List Char) :
    skipGap (c :: rest) = c :: rest :=
  List.dropWhile_cons_of_neg (by rw [hc]; exact Bool.false_ne_true)

/-- Blanks are dropped. -/
theorem Gap.skipGap_append (g : Gap) (rest : List Char) :
    skipGap (g.text ++ rest) = skipGap rest :=
  List.dropWhile_append_of_pos g.blank

/-- Blanks are dropped in front of a character that is none. -/
theorem Gap.skipGap_cons (g : Gap) {c : Char} (hc : isGap c = false) (rest : List Char) :
    skipGap (g.text ++ c :: rest) = c :: rest := by
  rw [g.skipGap_append, Json.skipGap_cons hc]

/-- A digit is no blank. -/
theorem isGap_eq_false_of_isDigit {c : Char} (hdigit : c.isDigit = true) : isGap c = false := by
  refine Bool.eq_false_iff.mpr fun hgap => ?_
  simp only [isGap, Bool.or_eq_true, beq_iff_eq] at hgap
  rcases hgap with ((rfl | rfl) | rfl) | rfl <;> cases hdigit

/-- Whether a text starts like a value: with no blank, and with nothing that ends an item or an
array. -/
def Opens (text : List Char) : Prop :=
  ∃ c more, text = c :: more ∧ isGap c = false ∧ c ≠ ',' ∧ c ≠ ']'

/-- A number starts like a value. -/
theorem opens_of_areDigits {digits more : List Char} (hdigits : AreDigits digits) :
    Opens (digits ++ more) := by
  obtain ⟨hne, hdigits⟩ := hdigits
  obtain ⟨c, tail, rfl⟩ := List.exists_cons_of_ne_nil hne
  have hdigit : c.isDigit = true := hdigits c List.mem_cons_self
  refine ⟨c, tail ++ more, rfl, isGap_eq_false_of_isDigit hdigit, ?_, ?_⟩ <;> rintro rfl <;>
    cases hdigit

/-- A value starts like one. -/
theorem IsJson.opens (hjson : IsJson text) : Opens text := by
  cases hjson with
  | positive hnumber =>
    cases hnumber with
    | parts hwhole => exact opens_of_areDigits hwhole.digits
  | null | true | false | negative | string | array | object =>
    exact ⟨_, _, rfl, rfl, by decide, by decide⟩

/-- A step over a value that has not ended is followed by the next step. -/
theorem skip_of_step {expected goal : Expected} {stack' : List Frame}
    (hstep : skipStep expected stack text = .ok (.inside goal stack' rest)) :
    skip expected stack text = skip goal stack' rest := by
  rw [skip]
  split
  · rename_i heq
    cases hstep.symm.trans heq
  · rename_i heq
    cases hstep.symm.trans heq
  · rename_i heq
    cases hstep.symm.trans heq
    rfl

/-- Whether a text is passed over in front of whatever may stand behind a value, with blanks before
it and any frames around it. -/
def IsPassed (text : List Char) : Prop :=
  ∀ (stack : List Frame) (g : Gap) (rest : List Char), Bounds rest →
    skip .value stack (g.text ++ (text ++ rest)) = skip .after stack rest

section Scalars

/-- What the scalar scanner takes is passed over. -/
theorem isPassed_of_skipScalar {c : Char} {more : List Char} (hgap : isGap c = false)
    (harray : c ≠ '[') (hobject : c ≠ '\x7b')
    (hscalar : ∀ rest, Bounds rest → skipScalar (c :: (more ++ rest)) = .ok rest) :
    IsPassed (c :: more) := by
  intro stack g rest hbounds
  apply skip_of_step
  have hskip : skipGap (g.text ++ (c :: more ++ rest)) = c :: (more ++ rest) :=
    g.skipGap_cons hgap _
  simp only [skipStep, stepValue, hskip]
  split
  · rename_i heq
    cases heq
    exact absurd rfl harray
  · rename_i heq
    cases heq
    exact absurd rfl hobject
  · rw [hscalar rest hbounds]
    rfl

/-- What starts with a digit is passed over as a number. -/
theorem skipScalar_of_isDigit {c : Char} (hdigit : c.isDigit = true) (more : List Char) :
    skipScalar (c :: more) = skipNumber (c :: more) := by
  unfold skipScalar
  split
  case h_7 heq =>
    cases heq
    exact if_pos hdigit
  all_goals
    rename_i heq
    cases heq
  all_goals cases hdigit

/-- A number is passed over. -/
theorem IsUnsigned.isPassed (hnumber : IsUnsigned text) : IsPassed text := by
  have hskip {rest : List Char} (hbounds : Bounds rest) := hnumber.skipNumber hbounds
  cases hnumber with
  | parts hwhole hfraction hexponent =>
    obtain ⟨⟨hne, hdigits⟩, _⟩ := hwhole
    obtain ⟨c, tail, rfl⟩ := List.exists_cons_of_ne_nil hne
    have hdigit : c.isDigit = true := hdigits c List.mem_cons_self
    refine isPassed_of_skipScalar (isGap_eq_false_of_isDigit hdigit) ?_ ?_ fun rest hbounds => ?_
    · rintro rfl
      cases hdigit
    · rintro rfl
      cases hdigit
    · rw [skipScalar_of_isDigit hdigit]
      exact hskip hbounds

/-- A number with a minus sign is passed over. -/
theorem IsUnsigned.isPassed_negative (hnumber : IsUnsigned text) : IsPassed ('-' :: text) :=
  isPassed_of_skipScalar rfl (by decide) (by decide) fun _ hbounds => hnumber.skipNumber hbounds

/-- A string is passed over. -/
theorem IsStringBody.isPassed (hbody : IsStringBody text) : IsPassed ('"' :: (text ++ ['"'])) := by
  refine isPassed_of_skipScalar rfl (by decide) (by decide) fun rest _ => ?_
  rw [List.append_assoc]
  exact hbody.skipString rest

end Scalars

section Parts

/-- What the parts inside a frame start with. -/
def Frame.expected : Frame → Expected
  | .array => .value
  | .object => .member

/-- The bracket that closes a frame. -/
def Frame.close : Frame → Char
  | .array => ']'
  | .object => '\x7d'

/-- Behind a part stands a comma with a further one, or the bracket that closes the frame. -/
theorem Frame.bounds_further (frame : Frame) (parts : List (List Char)) (rest : List Char) :
    Bounds (further parts ++ frame.close :: rest) := by
  cases parts with
  | cons => exact .comma _
  | nil =>
    cases frame with
    | array => exact .bracket rest
    | object => exact .brace rest

/-- Behind a comma the next part is expected. -/
theorem skip_comma (frame : Frame) (g : Gap) (rest : List Char) :
    skip .after (frame :: stack) (g.text ++ ',' :: rest) =
      skip frame.expected (frame :: stack) rest := by
  apply skip_of_step
  simp only [skipStep, stepAfter, g.skipGap_append]
  cases frame <;> rfl

/-- Behind its closing bracket a frame is finished. -/
theorem skip_close (frame : Frame) (g : Gap) (rest : List Char) :
    skip .after (frame :: stack) (g.text ++ frame.close :: rest) = skip .after stack rest := by
  apply skip_of_step
  simp only [skipStep, stepAfter, g.skipGap_append]
  cases frame <;> rfl

/-- Whether a text is passed over as a part inside a frame, up to the blanks behind it. -/
def Frame.Holds (frame : Frame) (part : List Char) : Prop :=
  ∀ (stack : List Frame) (rest : List Char), Bounds rest →
    ∃ g : Gap, skip frame.expected (frame :: stack) (part ++ rest) =
      skip .after (frame :: stack) (g.text ++ rest)

/-- The parts inside a frame are passed over up to its end. -/
theorem Frame.skip_parts {frame : Frame} {part : List Char} {parts : List (List Char)}
    (hpart : frame.Holds part) (hparts : ∀ part ∈ parts, frame.Holds part) (rest : List Char) :
    skip frame.expected (frame :: stack) (part ++ (further parts ++ frame.close :: rest)) =
      skip .after stack rest := by
  induction parts generalizing part with
  | nil =>
    obtain ⟨g, hg⟩ := hpart stack _ (frame.bounds_further [] rest)
    rw [hg]
    exact skip_close frame g rest
  | cons next parts ih =>
    obtain ⟨g, hg⟩ := hpart stack _ (frame.bounds_further (next :: parts) rest)
    rw [hg, further, List.flatMap_cons, List.cons_append, List.cons_append, skip_comma,
      List.append_assoc]
    exact ih (hparts next List.mem_cons_self) fun part hmem =>
      hparts part (List.mem_cons_of_mem next hmem)

/-- An item whose value is passed over is passed over in an array. -/
theorem Item.isHeld {i : Item} (hpassed : IsPassed i.value) : Frame.array.Holds i.text := by
  intro stack rest hbounds
  refine ⟨i.after, ?_⟩
  rw [Item.text, List.append_assoc, List.append_assoc]
  exact hpassed _ _ _ (i.after.bounds hbounds)

/-- The colon behind a name is passed over. -/
theorem skipColon_append (g : Gap) (rest : List Char) :
    skipColon (g.text ++ ':' :: rest) = .ok rest := by
  rw [skipColon, g.skipGap_append]
  rfl

/-- The name of an entry is passed over with its colon. -/
theorem skip_name (e : Entry) (hname : IsStringBody e.spelt) (rest : List Char) :
    skip .member stack (e.text ++ rest) =
      skip .value stack (e.beforeValue.text ++ (e.value ++ (e.afterValue.text ++ rest))) := by
  apply skip_of_step
  have htext : e.text ++ rest = e.beforeName.text ++ '"' :: (e.spelt ++ '"' ::
      (e.afterName.text ++ ':' ::
        (e.beforeValue.text ++ (e.value ++ (e.afterValue.text ++ rest))))) := by
    simp only [Entry.text, List.append_assoc, List.cons_append]
  simp only [skipStep, stepMember, htext, e.beforeName.skipGap_append,
    skipGap_cons (c := '"') rfl, hname.skipString, Except.bind, skipColon_append]
  rfl

/-- An entry whose value is passed over is passed over in an object. -/
theorem Entry.isHeld {e : Entry} (hname : IsStringBody e.spelt) (hpassed : IsPassed e.value) :
    Frame.object.Holds e.text := by
  intro stack rest hbounds
  refine ⟨e.afterValue, ?_⟩
  exact (skip_name e hname rest).trans (hpassed _ _ _ (e.afterValue.bounds hbounds))

/-- The bracket that opens a frame. -/
def Frame.opening : Frame → Char
  | .array => '['
  | .object => '\x7b'

/-- Whether a part does not start like the end of a frame, whatever stands behind it. -/
def Frame.Starts (frame : Frame) (part : List Char) : Prop :=
  ∀ rest, ∃ c more, skipGap (part ++ rest) = c :: more ∧ c ≠ frame.close

/-- Behind an opening bracket, a closing one ends an empty frame. -/
theorem skip_empty (frame : Frame) (g blank : Gap) (rest : List Char) :
    skip .value stack (g.text ++ frame.opening :: (blank.text ++ frame.close :: rest)) =
      skip .after stack rest := by
  apply skip_of_step
  cases frame <;>
    simp only [skipStep, stepValue, g.skipGap_append, Frame.opening, Frame.close,
      skipGap_cons (c := '[') rfl, skipGap_cons (c := '\x7b') rfl, blank.skipGap_append,
      skipGap_cons (c := ']') rfl, skipGap_cons (c := '\x7d') rfl]

/-- Behind an opening bracket, the first part is expected. -/
theorem skip_opening (frame : Frame) (g : Gap) {c : Char} {more : List Char}
    (hstart : skipGap text = c :: more) (hc : c ≠ frame.close) :
    skip .value stack (g.text ++ frame.opening :: text) =
      skip frame.expected (frame :: stack) text := by
  apply skip_of_step
  cases frame
  all_goals
    simp only [skipStep, stepValue, g.skipGap_append, Frame.opening,
      skipGap_cons (c := '[') rfl, skipGap_cons (c := '\x7b') rfl, hstart]
    split
    · rename_i heq
      cases heq
      exact absurd rfl hc
    · rfl

/-- A frame is passed over if all its parts are. -/
theorem Frame.isPassed (frame : Frame) (blank : Gap) {parts : List (List Char)}
    (hstarts : ∀ part ∈ parts, frame.Starts part) (hparts : ∀ part ∈ parts, frame.Holds part) :
    IsPassed (frame.opening :: (body blank parts ++ [frame.close])) := by
  intro stack g rest _
  rw [List.cons_append, List.append_assoc, List.singleton_append]
  cases parts with
  | nil => exact skip_empty frame g blank rest
  | cons part parts =>
    rw [body, List.append_assoc]
    obtain ⟨c, more, hstart, hc⟩ := hstarts part List.mem_cons_self
      (further parts ++ frame.close :: rest)
    rw [skip_opening frame g hstart hc]
    exact Frame.skip_parts (hparts part List.mem_cons_self)
      (fun part hmem => hparts part (List.mem_cons_of_mem _ hmem)) rest

/-- An item starts like its value. -/
theorem Item.starts {i : Item} (hopens : Opens i.value) : Frame.array.Starts i.text := by
  obtain ⟨c, more, hvalue, hgap, _, hbracket⟩ := hopens
  intro rest
  refine ⟨c, more ++ (i.after.text ++ rest), ?_, hbracket⟩
  rw [Item.text, List.append_assoc, hvalue, List.append_assoc]
  exact i.before.skipGap_cons hgap _

/-- An entry starts with the quote of its name. -/
theorem Entry.starts (e : Entry) : Frame.object.Starts e.text := by
  intro rest
  rw [Entry.text, List.append_assoc]
  exact ⟨'"', _, e.beforeName.skipGap_cons rfl _, by decide⟩

end Parts

/-- **A value is passed over.** -/
theorem IsJson.isPassed (hjson : IsJson text) : IsPassed text := by
  induction hjson with
  | null => exact isPassed_of_skipScalar rfl (by decide) (by decide) fun _ _ => rfl
  | true => exact isPassed_of_skipScalar rfl (by decide) (by decide) fun _ _ => rfl
  | false => exact isPassed_of_skipScalar rfl (by decide) (by decide) fun _ _ => rfl
  | positive hnumber => exact hnumber.isPassed
  | negative hnumber => exact hnumber.isPassed_negative
  | string hstring => exact hstring.isPassed
  | array blank items hitems ih =>
    refine Frame.array.isPassed blank ?_ ?_
    · simpa only [List.forall_mem_map] using fun i hi => Item.starts (hitems i hi).opens
    · simpa only [List.forall_mem_map] using fun i hi => Item.isHeld (ih i hi)
  | object blank entries hnames _ ih =>
    refine Frame.object.isPassed blank ?_ ?_
    · simpa only [List.forall_mem_map] using fun e _ => e.starts
    · simpa only [List.forall_mem_map] using fun e he => Entry.isHeld (hnames e he) (ih e he)

/-- A value is passed over in front of what may stand behind it. -/
theorem IsJson.skipValue (hjson : IsJson text) (g : Gap) (hbounds : Bounds rest) :
    skipValue (g.text ++ (text ++ rest)) = .ok rest := by
  rw [Json.skipValue, hjson.isPassed [] g rest hbounds, skip]
  rfl

end FleetTrial.Json
