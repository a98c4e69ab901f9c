import FleetTrial.Proofs.Measurement.Delivery
import FleetTrial.Proofs.Task.Run

/-!
# The history of a hub

Sinks come and go on a hub, events are published, and forwarders are closed or written to past the
bus, in any order. All that can be told of the hub afterwards follows from its history: which
registrations there are and how they are numbered, whose connection is open, and what every
collector has received.
-/

namespace FleetTrial

/-- What may be done with a hub. -/
inductive HubCue
  | subscribe (sink : Sink)
  /-- A new forwarder is connected and registered. -/
  | connect (space : String)
  | unsubscribe (id : Nat)
  | publish (e : Event)
  | close (index : Nat)
  /-- A forwarder is written to past the bus. -/
  | send (index : Nat) (e : Event)

/-- A cue connects a forwarder or does not. -/
theorem HubCue.connects_or_not (cue : HubCue) :
    (∃ space, cue = .connect space) ∨ ∀ space, cue ≠ .connect space := by
  cases cue <;> simp

namespace Hub

/-- A hub at work. A forwarder can be dealt with once it has been connected. -/
def system : System Hub HubCue where
  Allows h cue :=
    match cue with
    | .subscribe (.forwarder index) | .close index | .send index _ =>
      index < h.kept.forwarders.length
    | _ => True
  perform cue h :=
    match cue with
    | .subscribe sink => (h.subscribe sink).1
    | .connect space => (h.connect space).1
    | .unsubscribe id => (h.unsubscribe id).1
    | .publish e => (h.publish e).1
    | .close index => h.close index
    | .send index e => (h.send index e).toOption.getD h

/-- The registration that is made in a scene, if there is one. -/
def subscription? (scene : Scene Hub HubCue) : Option (Nat × Sink) :=
  match scene.cue with
  | .subscribe sink => some ((scene.before.subscribe sink).2, sink)
  | .connect space =>
    some ((scene.before.connect space).2, .forwarder scene.before.kept.forwarders.length)
  | _ => none

/-- The registrations that are made in some scenes, in order. -/
def subscriptions (history : List (Scene Hub HubCue)) : List (Nat × Sink) :=
  history.filterMap subscription?

/-- Whether a registration is to be removed in a scene. -/
def unsubscribes (id : Nat) (scene : Scene Hub HubCue) : Bool :=
  match scene.cue with
  | .unsubscribe number => number == id
  | _ => false

/-- Whether a scene removes a registration and says so. -/
def removes (id : Nat) (scene : Scene Hub HubCue) : Bool :=
  unsubscribes id scene && (scene.before.unsubscribe id).2

/-- The registrations that are made in some scenes and not removed later, in order. -/
def surviving : List (Scene Hub HubCue) → List (Nat × Sink)
  | [] => []
  | scene :: later =>
    ((subscription? scene).filter fun s => !later.any (unsubscribes s.1)).toList ++ surviving later

/-- The namespaces of the forwarders that are connected in some scenes, in order. -/
def connections (history : List (Scene Hub HubCue)) : List String :=
  history.filterMap fun scene =>
    match scene.cue with
    | .connect space => some space
    | _ => none

/-- Whether a forwarder is closed in a scene. -/
def closes (index : Nat) (scene : Scene Hub HubCue) : Bool :=
  match scene.cue with
  | .close number => number == index
  | _ => false

/-- The events that a forwarder is offered in a scene: a published one as often as it is
registered, or one that is written to it. -/
def offered (index : Nat) (scene : Scene Hub HubCue) : List Event :=
  match scene.cue with
  | .publish e => (Sink.forwarder index).copies scene.before.registered [e]
  | .send number e => if number = index then [e] else []
  | _ => []

/-- The events that a forwarder gets through in a scene: none, unless its connection is open. -/
def delivered (index : Nat) (scene : Scene Hub HubCue) : List Event :=
  if scene.before.kept.takes (.forwarder index) then offered index scene else []

variable {h : Hub} {cue : HubCue} {scene : Scene Hub HubCue} {history : List (Scene Hub HubCue)}
  {index id : Nat} {f : Forwarder}

/-- One more scene makes a registration, or removes one of those that have survived so far. -/
theorem surviving_concat (history : List (Scene Hub HubCue)) (scene : Scene Hub HubCue) :
    surviving (history ++ [scene]) =
      ((surviving history).filter fun s => !unsubscribes s.1 scene) ++
        (subscription? scene).toList := by
  induction history with
  | nil =>
    cases hs : subscription? scene with
    | none => simp [surviving, hs]
    | some s => simp [surviving, hs]
  | cons first later ih =>
    have hfirst : (((subscription? first).filter fun s =>
          !(later ++ [scene]).any (unsubscribes s.1)).toList : List (Nat × Sink)) =
        (((subscription? first).filter fun s => !later.any (unsubscribes s.1)).toList).filter
          fun s => !unsubscribes s.1 scene := by
      cases subscription? first with
      | none => rfl
      | some s =>
        cases hlater : later.any (unsubscribes s.1) <;> cases hlast : unsubscribes s.1 scene <;>
          simp [Option.filter, List.any_append, hlater, hlast]
    rw [List.cons_append, surviving, hfirst, ih, surviving, List.filter_append, List.append_assoc]

/-- A connection gets through what it is offered, and notes it, unless it is closed. -/
theorem offerAll_offered (hf : scene.before.kept.forwarders[index]? = some f) :
    f.offerAll (offered index scene) = { f with
      received := f.received ++ Event.stream f.space (delivered index scene) } := by
  have htakes : scene.before.kept.takes (.forwarder index) = f.isOpen := by
    simp only [Kept.takes, hf, Option.any_some]
  unfold delivered
  rw [htakes]
  cases hopen : f.isOpen with
  | true => simp only [Forwarder.offerAll, hopen, if_true, Forwarder.writeAll_eq]
  | false =>
    simp only [Forwarder.offerAll, hopen, Bool.false_eq_true, if_false, Event.stream_nil,
      String.append_empty]
    rw [← hopen]

/-- What a cue makes of the forwarders that have been connected before. -/
theorem forwarders_perform (hcue : ∀ space, cue ≠ .connect space) (index : Nat) :
    (system.perform cue h).kept.forwarders[index]? = (h.kept.forwarders[index]?).map fun f =>
      if closes index ⟨h, cue⟩ then f.close else f.offerAll (offered index ⟨h, cue⟩) := by
  cases cue with
  | subscribe sink => exact Kept.map_offerAll_nil _
  | connect space => exact absurd rfl (hcue space)
  | unsubscribe number => exact Kept.map_offerAll_nil _
  | publish e => exact (delivered_publish e h).1.forwarders index
  | close number =>
    have hclose : (system.perform (.close number) h).kept.forwarders[index]? =
        (fun f => if number = index then f.close else f) <$> h.kept.forwarders[index]? :=
      List.getElem?_modify _ _ _ _
    rw [hclose]
    by_cases hnumber : number = index
    · simp [closes, hnumber]
    · simp [closes, hnumber, offered]
  | send number e =>
    have hsend : (system.perform (.send number e) h).kept =
        (Kept.accept (.forwarder number) e h.kept).1 := by
      simp only [system, send, Kept.accept]
      cases h.kept.send number e <;> rfl
    have haccept := (Kept.delivered_accept (.forwarder number) e h.kept).1.forwarders index
    rw [Sink.copies_forwarder] at haccept
    rw [hsend]
    exact haccept

/-- What a cue does to the registrations: one may be removed, and one may come behind the others. -/
theorem sinks_perform (cue : HubCue) (h : Hub) :
    (system.perform cue h).bus.sinks =
      (h.bus.sinks.filter fun s => !unsubscribes s.1 ⟨h, cue⟩) ++
        (subscription? ⟨h, cue⟩).toList := by
  have hkept (hnone : ∀ id, unsubscribes id ⟨h, cue⟩ = false) :
      (h.bus.sinks.filter fun s => !unsubscribes s.1 ⟨h, cue⟩) = h.bus.sinks :=
    List.filter_eq_self.mpr fun s _ => by rw [hnone]; rfl
  cases cue with
  | unsubscribe number =>
    rw [show subscription? ⟨h, .unsubscribe number⟩ = none from rfl, Option.toList_none,
      List.append_nil]
    exact List.filter_congr fun s _ => congrArg not (Bool.beq_comm ..)
  | subscribe sink => rw [hkept fun _ => rfl]; rfl
  | connect space => rw [hkept fun _ => rfl]; rfl
  | publish e => rw [hkept fun _ => rfl]; exact (List.append_nil _).symm
  | close number => rw [hkept fun _ => rfl]; exact (List.append_nil _).symm
  | send number e =>
    rw [hkept fun _ => rfl]
    simp only [system, send, subscription?, Option.toList_none, List.append_nil]
    cases h.kept.send number e <;> rfl

/-- A registration gets the next number. -/
theorem range_perform (cue : HubCue) (h : Hub) :
    List.range (system.perform cue h).bus.nextId =
      List.range h.bus.nextId ++ (subscription? ⟨h, cue⟩).toList.map (·.1) := by
  cases cue with
  | subscribe sink => exact List.range_succ
  | connect space => exact List.range_succ
  | unsubscribe number => exact (List.append_nil _).symm
  | publish e => exact (List.append_nil _).symm
  | close number => exact (List.append_nil _).symm
  | send number e =>
    simp only [system, send, subscription?, Option.toList_none, List.map_nil, List.append_nil]
    cases h.kept.send number e <;> rfl

/-- What is known of a hub that `history` has led to. -/
structure Remembered (history : List (Scene Hub HubCue)) (h : Hub) : Prop where
  numbered : (subscriptions history).map (·.1) = List.range h.bus.nextId
  registered : h.bus.sinks = surviving history
  removed : ∀ id, history.countP (removes id) + h.bus.sinks.countP (·.1 == id) =
    (subscriptions history).countP (·.1 == id)
  connected : h.kept.forwarders.map (·.space) = connections history
  forwarder : ∀ (index : Nat) (f : Forwarder), h.kept.forwarders[index]? = some f →
    f.isOpen = !history.any (closes index) ∧
      f.received = Event.stream f.space (history.flatMap (delivered index))
  unconnected : ∀ index, h.kept.forwarders.length ≤ index →
    history.any (closes index) = false ∧ history.flatMap (delivered index) = []

/-- A hub on which nothing has been done has nothing to remember. -/
theorem remembered_empty : Remembered [] empty where
  numbered := rfl
  registered := rfl
  removed _ := rfl
  connected := rfl
  forwarder _ _ hf := by cases hf
  unconnected _ _ := ⟨rfl, rfl⟩

/-- No number is given to two registrations. -/
theorem Remembered.countP_subscriptions_le (hremembered : Remembered history h) (id : Nat) :
    (subscriptions history).countP (·.1 == id) ≤ 1 := by
  have hcount : (subscriptions history).countP (·.1 == id) =
      ((subscriptions history).map (·.1)).count id := by
    rw [List.count, List.countP_map]
    rfl
  rw [hcount, hremembered.numbered]
  exact List.nodup_iff_count.mp List.nodup_range id

theorem subscriptions_concat (history : List (Scene Hub HubCue)) (scene : Scene Hub HubCue) :
    subscriptions (history ++ [scene]) =
      subscriptions history ++ (subscription? scene).toList := by
  rw [subscriptions, List.filterMap_append, subscriptions]
  cases hs : subscription? scene <;> simp [hs]

/-- The namespace of the forwarder that is connected in a scene, if there is one. -/
theorem connections_concat (history : List (Scene Hub HubCue)) (scene : Scene Hub HubCue) :
    connections (history ++ [scene]) = connections history ++ connections [scene] :=
  List.filterMap_append

/-- A removal succeeds exactly if the registration is there, which it is at most once. -/
theorem Remembered.toNat_isRegistered (hremembered : Remembered history h) (id : Nat) :
    (h.bus.isRegistered id).toNat = h.bus.sinks.countP (·.1 == id) := by
  have hsum := hremembered.removed id
  have hnumbers := hremembered.countP_subscriptions_le id
  cases hregistered : h.bus.isRegistered id with
  | true =>
    obtain ⟨s, hs, hid⟩ := List.any_eq_true.mp hregistered
    have hpos : 0 < h.bus.sinks.countP (·.1 == id) := List.countP_pos_iff.mpr ⟨s, hs, hid⟩
    rw [Bool.toNat_true]
    omega
  | false =>
    exact (List.countP_eq_zero.mpr fun s hs => List.any_eq_false.mp hregistered s hs).symm

/-- Each registration is either there or has been removed, and no cue changes that. -/
theorem Remembered.removed_perform (hremembered : Remembered history h) (cue : HubCue) (id : Nat) :
    (removes id ⟨h, cue⟩).toNat + (system.perform cue h).bus.sinks.countP (·.1 == id) =
      h.bus.sinks.countP (·.1 == id) + (subscription? ⟨h, cue⟩).toList.countP (·.1 == id) := by
  have hfilter (b : Bool) (hb : unsubscribes id ⟨h, cue⟩ = b) :
      h.bus.sinks.countP (fun s => s.1 == id && !unsubscribes s.1 ⟨h, cue⟩) =
        if b then 0 else h.bus.sinks.countP (·.1 == id) := by
    cases b with
    | true =>
      refine List.countP_eq_zero.mpr fun s _ => ?_
      by_cases hid : s.1 = id
      · simp [hid, hb]
      · simp [hid]
    | false =>
      refine List.countP_congr fun s _ => ?_
      by_cases hid : s.1 = id
      · simp [hid, hb]
      · simp [hid]
  rw [sinks_perform, List.countP_append, List.countP_filter, removes, hfilter _ rfl]
  cases hunsubscribes : unsubscribes id ⟨h, cue⟩ with
  | false => exact Nat.zero_add _
  | true =>
    have hremoved : (h.unsubscribe id).2.toNat = h.bus.sinks.countP (·.1 == id) :=
      hremembered.toNat_isRegistered id
    rw [Bool.true_and, hremoved, if_pos rfl, Nat.zero_add]

/-- A cue that connects nobody leaves as many forwarders as there were. -/
theorem length_forwarders_perform (hcue : ∀ space, cue ≠ .connect space) :
    (system.perform cue h).kept.forwarders.length = h.kept.forwarders.length := by
  have hnone (index : Nat) : (system.perform cue h).kept.forwarders.length ≤ index ↔
      h.kept.forwarders.length ≤ index := by
    rw [← List.getElem?_eq_none_iff, ← List.getElem?_eq_none_iff, forwarders_perform hcue,
      Option.map_eq_none_iff]
  exact Nat.le_antisymm ((hnone _).mpr (Nat.le_refl _)) ((hnone _).mp (Nat.le_refl _))

/-- Forwarders keep their namespaces. -/
theorem map_space_perform (hcue : ∀ space, cue ≠ .connect space) :
    (system.perform cue h).kept.forwarders.map (·.space) = h.kept.forwarders.map (·.space) := by
  refine List.ext_getElem? fun index => ?_
  rw [List.getElem?_map, List.getElem?_map, forwarders_perform hcue, Option.map_map]
  refine congrArg (Option.map · _) (funext fun f => ?_)
  by_cases hcloses : closes index ⟨h, cue⟩ = true
  · simp only [Function.comp_apply, hcloses, if_true]
    rfl
  · simp only [Function.comp_apply, hcloses, if_false, Forwarder.space_offerAll, Bool.false_eq_true]

/-- A forwarder gets nothing through before it has been connected. -/
theorem delivered_of_length_le (hindex : scene.before.kept.forwarders.length ≤ index) :
    delivered index scene = [] := by
  have htakes : scene.before.kept.takes (.forwarder index) = false := by
    simp only [Kept.takes, List.getElem?_eq_none_iff.mpr hindex, Option.any_none]
  rw [delivered, htakes]
  rfl

/-- A forwarder cannot be closed before it has been connected. -/
theorem closes_eq_false (hallows : system.Allows h cue)
    (hindex : h.kept.forwarders.length ≤ index) : closes index ⟨h, cue⟩ = false := by
  cases cue with
  | close number =>
    have hlt : number < h.kept.forwarders.length := hallows
    exact beq_eq_false_iff_ne.mpr (by omega)
  | _ => rfl

theorem any_closes_concat (history : List (Scene Hub HubCue)) (scene : Scene Hub HubCue) :
    (history ++ [scene]).any (closes index) =
      (history.any (closes index) || closes index scene) := by
  rw [List.any_append, List.any_cons, List.any_nil, Bool.or_false]

theorem delivered_concat (history : List (Scene Hub HubCue)) (scene : Scene Hub HubCue) :
    (history ++ [scene]).flatMap (delivered index) =
      history.flatMap (delivered index) ++ delivered index scene := by
  rw [List.flatMap_append, List.flatMap_singleton]

/-- Nothing has been done with a forwarder that is still to be connected behind one more scene. -/
theorem Remembered.unconnected_concat (hremembered : Remembered history h)
    (hallows : system.Allows h cue) (hindex : h.kept.forwarders.length ≤ index) :
    (history ++ [Scene.mk h cue]).any (closes index) = false ∧
      (history ++ [Scene.mk h cue]).flatMap (delivered index) = [] := by
  obtain ⟨hopen, hnothing⟩ := hremembered.unconnected index hindex
  rw [any_closes_concat, delivered_concat, hopen, hnothing, closes_eq_false hallows hindex,
    delivered_of_length_le hindex]
  exact ⟨rfl, rfl⟩

/-- What is known of a forwarder behind a scene in which none is connected. -/
theorem Remembered.forwarder_concat (hremembered : Remembered history h)
    (hcue : ∀ space, cue ≠ .connect space)
    (hf : (system.perform cue h).kept.forwarders[index]? = some f) :
    f.isOpen = !(history ++ [Scene.mk h cue]).any (closes index) ∧
      f.received =
        Event.stream f.space ((history ++ [Scene.mk h cue]).flatMap (delivered index)) := by
  rw [forwarders_perform hcue] at hf
  obtain ⟨g, hg, hgf⟩ := Option.map_eq_some_iff.mp hf
  obtain ⟨hopen, hreceived⟩ := hremembered.forwarder index g hg
  rw [any_closes_concat, delivered_concat, Event.stream_append]
  cases hcloses : closes index ⟨h, cue⟩ with
  | true =>
    have hnothing : delivered index ⟨h, cue⟩ = [] := by
      cases cue with
      | close number => exact ite_self _
      | _ => cases hcloses
    rw [hcloses, if_pos rfl] at hgf
    subst hgf
    rw [hnothing, Bool.or_true]
    exact ⟨rfl, hreceived.trans String.append_empty.symm⟩
  | false =>
    have hoffer : g.offerAll (offered index ⟨h, cue⟩) = _ := offerAll_offered hg
    rw [hcloses, if_neg Bool.false_ne_true, hoffer] at hgf
    subst hgf
    rw [Bool.or_false]
    exact ⟨hopen, by rw [hreceived]⟩

/-- What is known of a forwarder behind a scene in which one is connected. -/
theorem Remembered.forwarder_connect (hremembered : Remembered history h) {space : String}
    (hf : (system.perform (.connect space) h).kept.forwarders[index]? = some f) :
    f.isOpen = !(history ++ [Scene.mk h (HubCue.connect space)]).any (closes index) ∧
      f.received = Event.stream f.space
        ((history ++ [Scene.mk h (HubCue.connect space)]).flatMap (delivered index)) := by
  rcases Nat.lt_trichotomy index h.kept.forwarders.length with hlt | rfl | hgt
  · have hold : h.kept.forwarders[index]? = some f :=
      (List.getElem?_append_left hlt).symm.trans hf
    have hnothing : delivered index ⟨h, .connect space⟩ = [] := ite_self _
    have hopen : closes index ⟨h, .connect space⟩ = false := rfl
    rw [any_closes_concat, delivered_concat, hnothing, List.append_nil, hopen, Bool.or_false]
    exact hremembered.forwarder index f hold
  · have hnew : some (Forwarder.connect space) = some f :=
      List.getElem?_concat_length.symm.trans hf
    cases hnew
    have hallows : system.Allows h (.connect space) := trivial
    obtain ⟨hopen, hnothing⟩ := hremembered.unconnected_concat hallows (Nat.le_refl _)
    rw [hopen, hnothing]
    exact ⟨rfl, rfl⟩
  · have hnone : (h.kept.forwarders ++ [Forwarder.connect space])[index]? = none :=
      List.getElem?_eq_none (by rw [List.length_append]; exact hgt)
    cases hnone.symm.trans hf

/-- One more scene is remembered on top of the others. -/
theorem Remembered.concat (hremembered : Remembered history h) (hallows : system.Allows h cue) :
    Remembered (history ++ [⟨h, cue⟩]) (system.perform cue h) := by
  constructor
  case numbered =>
    rw [subscriptions_concat, List.map_append, hremembered.numbered, range_perform]
  case registered => rw [surviving_concat, sinks_perform, hremembered.registered]
  case removed =>
    intro id
    have hbefore := hremembered.removed id
    have hscene := hremembered.removed_perform cue id
    rw [subscriptions_concat, List.countP_append, List.countP_append, List.countP_singleton]
    cases hremoves : removes id ⟨h, cue⟩ with
    | true =>
      rw [hremoves, Bool.toNat_true] at hscene
      rw [if_pos rfl]
      omega
    | false =>
      rw [hremoves, Bool.toNat_false] at hscene
      rw [if_neg Bool.false_ne_true]
      omega
  case connected =>
    rw [connections_concat, ← hremembered.connected]
    cases cue with
    | connect space => exact List.map_append
    | _ => exact (map_space_perform (by simp)).trans (List.append_nil _).symm
  case forwarder =>
    intro index f hf
    rcases cue.connects_or_not with ⟨space, rfl⟩ | hcue
    · exact hremembered.forwarder_connect hf
    · exact hremembered.forwarder_concat hcue hf
  case unconnected =>
    intro index hindex
    refine hremembered.unconnected_concat hallows (Nat.le_trans ?_ hindex)
    rcases cue.connects_or_not with ⟨space, rfl⟩ | hcue
    · have hlength : (h.kept.forwarders ++ [Forwarder.connect space]).length =
          h.kept.forwarders.length + 1 := List.length_append
      exact Nat.le_of_lt (hlength ▸ Nat.lt_succ_self _)
    · exact Nat.le_of_eq (length_forwarders_perform hcue).symm

/-- Along a run everything is remembered. -/
theorem remembered_of_run (hrun : system.Run empty history h) : Remembered history h := by
  induction hrun with
  | nil => exact remembered_empty
  | snoc _ hallows ih => exact ih.concat hallows

/-- Removing all elements of a kind removes the first one if there are no more. -/
theorem filter_not_eq_eraseP {α : Type} {p : α → Bool} {l : List α} (hcount : l.countP p ≤ 1) :
    (l.filter fun a => !p a) = l.eraseP p := by
  induction l with
  | nil => rfl
  | cons a l ih =>
    rw [List.countP_cons] at hcount
    cases ha : p a with
    | true =>
      rw [ha, if_pos rfl] at hcount
      have hnone : l.countP p = 0 := by omega
      rw [List.eraseP_cons_of_pos ha, List.filter_cons_of_neg (by rw [ha]; nofun)]
      exact List.filter_eq_self.mpr fun b hb => by
        rw [Bool.eq_false_iff.mpr (List.countP_eq_zero.mp hnone b hb), Bool.not_false]
    | false =>
      rw [ha, if_neg Bool.false_ne_true] at hcount
      rw [List.eraseP_cons_of_neg (by rw [ha]; nofun), List.filter_cons_of_pos (by rw [ha]; rfl),
        ih hcount]

/-- What can be told of a hub by its history. -/
structure Chronicled (history : List (Scene Hub HubCue)) (h : Hub) : Prop where
  /-- No two registrations have ever got the same number. -/
  numbers : ((subscriptions history).map (·.1)).Nodup
  /-- The registered sinks are those that were subscribed and not removed since, in order. -/
  registered : h.bus.sinks = surviving history
  /-- Removing a registration succeeds exactly if it is there. -/
  removable : ∀ id, (h.unsubscribe id).2 = true ↔ ∃ sink, (id, sink) ∈ h.bus.sinks
  /-- Removing a registration takes that one away and nothing else. -/
  unsubscribed : ∀ id, (h.unsubscribe id).1.bus.sinks = h.bus.sinks.eraseP (·.1 == id) ∧
    (h.unsubscribe id).1.kept = h.kept
  /-- No registration has been removed twice. -/
  once : ∀ id, history.countP (removes id) ≤ 1
  /-- A published event is handed to one registered sink after the other, in the state that those
  before have left. -/
  inOrder : ∀ e, (h.publish e).1.kept =
    h.registered.foldl (fun kept sink => (Kept.accept sink e kept).1) h.kept
  /-- Every registered sink has got a published event as it is, whether or not others took it. -/
  delivered : ∀ e, Kept.Delivered h.registered [e] h.kept (h.publish e).1.kept
  /-- Publishing tells how many registered sinks have taken the event, and keeps all of them. -/
  counted : ∀ e, (h.publish e).2 = h.registered.countP h.kept.takes ∧
    (h.publish e).1.bus = h.bus
  /-- The forwarders are those that have been connected, in order. -/
  connected : h.kept.forwarders.map (·.space) = connections history
  /-- A connection is open as long as it has not been closed. -/
  isOpen : ∀ (index : Nat) (f : Forwarder), h.kept.forwarders[index]? = some f →
    f.isOpen = !history.any (closes index)
  /-- A collector has received the lines of the events that came through while the connection was
  open, whether they were published or written past the bus. -/
  received : ∀ (index : Nat) (f : Forwarder), h.kept.forwarders[index]? = some f →
    f.received = Event.stream f.space (history.flatMap (Hub.delivered index))
  /-- A closed forwarder refuses every event, and is not counted among those that take it. -/
  refused : ∀ index, history.any (closes index) = true → ∀ e,
    h.send index e = .error (.telemetry (.plain "Metrics connection is closed")) ∧
      Kept.accept (.forwarder index) e h.kept = (h.kept, false)
  /-- Closing a forwarder again does nothing. -/
  closed : ∀ index, history.any (closes index) = true → h.close index = h

/-- A forwarder that has been closed takes no events. -/
theorem Remembered.takes_eq_false (hremembered : Remembered history h)
    (hcloses : history.any (closes index) = true) : h.kept.takes (.forwarder index) = false := by
  cases hf : h.kept.forwarders[index]? with
  | none => simp only [Kept.takes, hf, Option.any_none]
  | some f =>
    have hopen := (hremembered.forwarder index f hf).1
    rw [hcloses] at hopen
    simp only [Kept.takes, hf, Option.any_some, hopen, Bool.not_true]

/-- Closing a forwarder that takes no events does nothing. -/
theorem close_of_not_takes (htakes : h.kept.takes (.forwarder index) = false) :
    h.close index = h := by
  have hforwarders : h.kept.forwarders.modify index Forwarder.close = h.kept.forwarders := by
    refine List.ext_getElem? fun number => ?_
    rw [List.getElem?_modify]
    cases hf : h.kept.forwarders[number]? with
    | none => rfl
    | some f =>
      by_cases hnumber : index = number
      · subst hnumber
        have hclosed : f.isOpen = false := by
          simpa only [Kept.takes, hf, Option.any_some] using htakes
        rw [Option.map_eq_map, Option.map_some, if_pos rfl, Forwarder.close, ← hclosed]
      · rw [Option.map_eq_map, Option.map_some, if_neg hnumber]
  simp only [close, Kept.close, hforwarders]

/-- **The history of a hub tells everything about it**, whatever is done with it in whatever
order. -/
theorem hub_tells_history (hrun : system.Run empty history h) : Chronicled history h := by
  have hremembered := remembered_of_run hrun
  have hsum (id : Nat) := hremembered.removed id
  have hnumbers (id : Nat) := hremembered.countP_subscriptions_le id
  constructor
  case numbers =>
    rw [hremembered.numbered]
    exact List.nodup_range
  case registered => exact hremembered.registered
  case removable =>
    intro id
    have hany : (h.unsubscribe id).2 = h.bus.sinks.any (·.1 == id) := rfl
    rw [hany, List.any_eq_true]
    constructor
    · rintro ⟨⟨number, sink⟩, hs, hid⟩
      exact ⟨sink, beq_iff_eq.mp hid ▸ hs⟩
    · rintro ⟨sink, hs⟩
      exact ⟨(id, sink), hs, beq_self_eq_true id⟩
  case unsubscribed =>
    intro id
    refine ⟨filter_not_eq_eraseP ?_, rfl⟩
    have hbefore := hsum id
    have hnumber := hnumbers id
    omega
  case once =>
    intro id
    have hbefore := hsum id
    have hnumber := hnumbers id
    omega
  case inOrder =>
    intro e
    exact Bus.deliver_fst Kept.accept e h.registered h.kept
  case delivered => exact fun e => (delivered_publish e h).1
  case counted => exact fun e => (delivered_publish e h).2
  case connected => exact hremembered.connected
  case isOpen => exact fun index f hf => (hremembered.forwarder index f hf).1
  case received => exact fun index f hf => (hremembered.forwarder index f hf).2
  case refused =>
    intro index hcloses e
    have hsend := Kept.send_of_not_takes (hremembered.takes_eq_false hcloses) e
    constructor
    · rw [send, hsend]
      rfl
    · rw [Kept.accept, hsend]
  case closed => exact fun index hcloses => close_of_not_takes (hremembered.takes_eq_false hcloses)

/-- A forwarder is closed while it is registered, and written to afterwards; the tally is removed
twice; a recorder that fails gets every published event. -/
theorem hub_tells_history_past_close :
    ∃ e later : Event, e ≠ later ∧ ∃ history h, system.Run empty history h ∧
      history.map (·.cue) =
        [.connect "agones", .subscribe .tally, .subscribe (.recorder "log" true), .publish e,
          .close 0, .publish later, .send 0 later, .unsubscribe 1, .unsubscribe 1] ∧
      h.bus.sinks = [(0, .forwarder 0), (2, .recorder "log" true)] ∧
      h.kept = ⟨Tally.empty.recordAll [e, later],
        [⟨"agones", Event.stream "agones" [e], false⟩], [("log", e), ("log", later)]⟩ ∧
      history.countP (removes 1) = 1 ∧ Chronicled history h := by
  let e : Event := ⟨"ready", 1, 0, 0⟩
  let later : Event := ⟨"ready", 2, 0, 0⟩
  have hallows : system.AllowsAll empty
      [.connect "agones", .subscribe .tally, .subscribe (.recorder "log" true), .publish e,
        .close 0, .publish later, .send 0 later, .unsubscribe 1, .unsubscribe 1] :=
    ⟨trivial, trivial, trivial, trivial, Nat.one_pos, trivial, Nat.one_pos, trivial, trivial,
      trivial⟩
  have hrun := System.Run.of_allowsAll hallows
  exact ⟨e, later, by decide, _, _, hrun, rfl, rfl, rfl, rfl, hub_tells_history hrun⟩

end Hub

end FleetTrial
