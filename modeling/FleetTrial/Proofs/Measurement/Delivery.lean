import FleetTrial.Measurement.Hub
import FleetTrial.Proofs.Measurement.Recording
import FleetTrial.Proofs.Measurement.Stream

/-!
# What the sinks of a hub make of events

A published event is handed to each registered sink once, in the order of the registrations, and
whatever the sinks before have made of it. So what a sink keeps depends on the events and on how
often it is registered, and on nothing else: a recorder notes each event, the tally records it, and
a forwarder writes it unless its connection is closed.
-/

namespace FleetTrial

/-- Each sink is handed the event in the state that the sinks before it have left. -/
theorem Bus.deliver_fst {κ σ : Type} (accept : κ → Event → σ → σ × Bool) (e : Event)
    (sinks : List κ) (state : σ) :
    (deliver accept e sinks state).1 =
      sinks.foldl (fun state sink => (accept sink e state).1) state := by
  induction sinks generalizing state with
  | nil => rfl
  | cons sink sinks ih => exact ih (accept sink e state).1

namespace Sink

/-- The name of a recorder. -/
def recorder? : Sink → Option String
  | .recorder name _ => some name
  | .tally | .forwarder _ => none

/-- Some events, each as often as a sink stands among the registered ones. -/
def copies (sink : Sink) (sinks : List Sink) (events : List Event) : List Event :=
  events.flatMap (List.replicate (sinks.count sink))

/-- A sink gets one more copy of an event for each time that it stands in front of the others. -/
theorem copies_cons (sink first : Sink) (sinks : List Sink) (e : Event) :
    sink.copies (first :: sinks) [e] = sink.copies [first] [e] ++ sink.copies sinks [e] := by
  have hcount : (first :: sinks).count sink = [first].count sink + sinks.count sink := by
    rw [← List.count_append, List.singleton_append]
  simp only [copies, List.flatMap_singleton, hcount, List.replicate_append_replicate]

/-- Of two forwarders each gets its own events only. -/
theorem copies_forwarder (index number : Nat) (e : Event) :
    (forwarder index).copies [forwarder number] [e] = if number = index then [e] else [] := by
  rw [copies, List.flatMap_singleton, List.count_singleton]
  by_cases hnumber : number = index
  · simp [hnumber]
  · simp [hnumber]

end Sink

namespace Kept

variable {k k' k₁ : Kept} {e : Event} {events later : List Event} {sink : Sink}
  {sinks : List Sink}

/-- Whether a sink takes the events that it is handed. -/
def takes (k : Kept) : Sink → Bool
  | .recorder _ fails => !fails
  | .tally => true
  | .forwarder index => k.forwarders[index]?.any (·.isOpen)

/-- What sinks keep behind events that each of them has been handed in order. -/
structure Delivered (sinks : List Sink) (events : List Event) (k k' : Kept) : Prop where
  /-- Every recorder has noted every event, whether or not it fails. -/
  notes : k'.notes =
    k.notes ++ events.flatMap fun e => (sinks.filterMap Sink.recorder?).map (·, e)
  /-- The tally has recorded each event as often as it is registered. -/
  tally : k'.tally = k.tally.recordAll (Sink.tally.copies sinks events)
  /-- Each forwarder has been offered each event as often as it is registered. -/
  forwarders : ∀ index : Nat, k'.forwarders[index]? =
    (k.forwarders[index]?).map (·.offerAll ((Sink.forwarder index).copies sinks events))

/-- Forwarders to which nothing is offered stay as they are. -/
theorem map_offerAll_nil (f? : Option Forwarder) : f? = f?.map (·.offerAll []) := by
  cases f? with
  | none => rfl
  | some f => exact congrArg some f.offerAll_nil.symm

/-- Nothing has been delivered to any sink. -/
theorem delivered_nil (sinks : List Sink) (k : Kept) : Delivered sinks [] k k where
  notes := (List.append_nil _).symm
  tally := rfl
  forwarders _ := map_offerAll_nil _

/-- Without sinks nothing becomes of an event. -/
theorem delivered_to_nobody (e : Event) (k : Kept) : Delivered [] [e] k k where
  notes := (List.append_nil _).symm
  tally := rfl
  forwarders _ := map_offerAll_nil _

/-- Events are delivered on top of those before. -/
theorem Delivered.append (hfirst : Delivered sinks events k k₁)
    (hsecond : Delivered sinks later k₁ k') : Delivered sinks (events ++ later) k k' where
  notes := by rw [hsecond.notes, hfirst.notes, List.append_assoc, List.flatMap_append]
  tally := by
    rw [hsecond.tally, hfirst.tally, ← Tally.recordAll_append]
    exact congrArg (Tally.recordAll · k.tally) List.flatMap_append.symm
  forwarders index := by
    have hcopies : (Sink.forwarder index).copies sinks (events ++ later) =
        (Sink.forwarder index).copies sinks events ++ (Sink.forwarder index).copies sinks later :=
      List.flatMap_append
    rw [hsecond.forwarders, hfirst.forwarders, Option.map_map, hcopies]
    exact congrArg (Option.map · _) (funext fun f => (f.offerAll_append _ _).symm)

/-- An event is delivered to one more sink in front of others. -/
theorem Delivered.cons (hfirst : Delivered [sink] [e] k k₁) (hrest : Delivered sinks [e] k₁ k') :
    Delivered (sink :: sinks) [e] k k' where
  notes := by
    have hnames : (sink :: sinks).filterMap Sink.recorder? =
        [sink].filterMap Sink.recorder? ++ sinks.filterMap Sink.recorder? := by
      rw [← List.filterMap_append, List.singleton_append]
    rw [hrest.notes, hfirst.notes, hnames]
    simp only [List.flatMap_singleton, List.map_append, List.append_assoc]
  tally := by rw [hrest.tally, hfirst.tally, ← Tally.recordAll_append, ← Sink.copies_cons]
  forwarders index := by
    rw [hrest.forwarders, hfirst.forwarders, Option.map_map, Sink.copies_cons _ sink sinks]
    exact congrArg (Option.map · _) (funext fun f => (f.offerAll_append _ _).symm)

/-- A forwarder that takes events writes one to its open connection. -/
theorem send_of_takes {index : Nat} (htakes : k.takes (.forwarder index) = true) (e : Event) :
    ∃ f, k.forwarders[index]? = some f ∧ f.isOpen = true ∧
      k.send index e = .ok { k with forwarders := k.forwarders.set index (f.write e) } := by
  obtain ⟨f, hf, hopen⟩ := (Option.any_eq_true _ _).mp htakes
  refine ⟨f, hf, hopen, ?_⟩
  simp only [send, hf, f.send_of_isOpen hopen, Except.map]

/-- A forwarder that takes no events refuses one. -/
theorem send_of_not_takes {index : Nat} (htakes : k.takes (.forwarder index) = false)
    (e : Event) : k.send index e = .error Forwarder.closedError := by
  unfold send
  cases hf : k.forwarders[index]? with
  | none => rfl
  | some f =>
    have hclosed : f.isOpen = false := by simpa only [takes, hf, Option.any_some] using htakes
    simp only [f.send_of_not_isOpen hclosed, Except.map]

/-- What a sink makes of an event that it is handed, and whether it takes the event. -/
theorem delivered_accept (sink : Sink) (e : Event) (k : Kept) :
    Delivered [sink] [e] k (accept sink e k).1 ∧ (accept sink e k).2 = k.takes sink := by
  cases sink with
  | recorder name fails =>
    exact ⟨⟨rfl, rfl, fun _ => map_offerAll_nil _⟩, rfl⟩
  | tally => exact ⟨⟨(List.append_nil _).symm, rfl, fun _ => map_offerAll_nil _⟩, rfl⟩
  | forwarder index =>
    cases htakes : k.takes (.forwarder index) with
    | false =>
      simp only [accept, send_of_not_takes htakes, and_true]
      refine ⟨(List.append_nil _).symm, rfl, fun other => ?_⟩
      rw [Sink.copies_forwarder]
      split
      · rename_i hother
        subst hother
        cases hf : k.forwarders[index]? with
        | none => rfl
        | some f =>
          have hclosed : f.isOpen = false := by simpa only [takes, hf, Option.any_some] using htakes
          simp only [Option.map_some, Forwarder.offerAll, hclosed, Bool.false_eq_true, if_false]
      · exact map_offerAll_nil _
    | true =>
      obtain ⟨f, hf, hopen, hsend⟩ := send_of_takes htakes e
      simp only [accept, hsend, and_true]
      refine ⟨(List.append_nil _).symm, rfl, fun other => ?_⟩
      rw [Sink.copies_forwarder, List.getElem?_set]
      split
      · rename_i hother
        subst hother
        have hlength : index < k.forwarders.length := (List.getElem?_eq_some_iff.mp hf).1
        rw [if_pos hlength, hf, Option.map_some, Forwarder.offerAll, if_pos hopen]
        rfl
      · exact map_offerAll_nil _

/-- A sink that is handed an event leaves it to the others whether they take events. -/
theorem Delivered.takes_eq (hdelivered : Delivered sinks events k k') (sink : Sink) :
    k'.takes sink = k.takes sink := by
  cases sink with
  | recorder name fails => rfl
  | tally => rfl
  | forwarder index =>
    simp only [takes, hdelivered.forwarders index, Option.any_map]
    exact congrArg (Option.any · _) (funext fun f => f.isOpen_offerAll _)

/-- Every sink is handed an event once, and those that take it are counted. -/
theorem delivered_deliver (sinks : List Sink) (e : Event) (k : Kept) :
    Delivered sinks [e] k (Bus.deliver accept e sinks k).1 ∧
      (Bus.deliver accept e sinks k).2 = sinks.countP k.takes := by
  induction sinks generalizing k with
  | nil => exact ⟨delivered_to_nobody e k, rfl⟩
  | cons sink sinks ih =>
    obtain ⟨hfirst, htaken⟩ := delivered_accept sink e k
    obtain ⟨hrest, hcount⟩ := ih (accept sink e k).1
    refine ⟨hfirst.cons hrest, ?_⟩
    have hsame : sinks.countP (accept sink e k).1.takes = sinks.countP k.takes :=
      congrArg (List.countP · sinks) (funext hfirst.takes_eq)
    simp only [Bus.deliver, hcount, htaken, hsame, List.countP_cons]
    split <;> rfl

/-- What has been noted under a name, in order. -/
def notedBy (name : String) (k : Kept) : List Event :=
  (k.notes.filter fun note => note.1 == name).map (·.2)

/-- An event that is noted under some names is noted under one of them as often as it occurs. -/
theorem map_snd_filter_names (name : String) (names : List String) (e : Event) :
    ((names.map (·, e)).filter fun note => note.1 == name).map (·.2) =
      List.replicate (names.count name) e := by
  rw [List.filter_map, List.map_map, List.count_eq_length_filter]
  exact List.map_const'

/-- Recorders of a name note each event as often as they are registered. -/
theorem Delivered.notedBy_eq (hdelivered : Delivered sinks events k k') (name : String) :
    k'.notedBy name = k.notedBy name ++
      events.flatMap (List.replicate ((sinks.filterMap Sink.recorder?).count name)) := by
  rw [notedBy, hdelivered.notes, List.filter_append, List.map_append, List.filter_flatMap,
    List.map_flatMap, notedBy]
  exact congrArg _ (congrArg (List.flatMap · events)
    (funext fun e => map_snd_filter_names name _ e))

end Kept

namespace Hub

/-- The sinks that are registered, in the order of their registrations. -/
def registered (h : Hub) : List Sink := h.bus.sinks.map (·.2)

/-- Publishing hands an event to the registered sinks, counts those that take it, and changes
nothing about the registrations. -/
theorem delivered_publish (e : Event) (h : Hub) :
    Kept.Delivered h.registered [e] h.kept (h.publish e).1.kept ∧
      (h.publish e).2 = h.registered.countP h.kept.takes ∧ (h.publish e).1.bus = h.bus :=
  let ⟨hdelivered, hcount⟩ := Kept.delivered_deliver h.registered e h.kept
  ⟨hdelivered, hcount, rfl⟩

end Hub

end FleetTrial
