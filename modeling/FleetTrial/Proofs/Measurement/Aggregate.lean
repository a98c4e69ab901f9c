import FleetTrial.Proofs.Measurement.Recording
import Mathlib.Algebra.GroupWithZero.Nat
import Mathlib.Data.List.Induction

/-!
# What a tally tells of its events

The users of a trial share one tally, so their events reach it in some interleaving, with counts of
attempts in between. What the tally says of the labels depends on neither: there is one entry for
each label that occurred, and the entry is determined by the values that the label occurred with,
whatever their order. The labels are determined by that description, which a permutation of the
events does not change.
-/

namespace FleetTrial

/-- The values of the events that carry a label. -/
def valuesOf (label : String) (events : List Event) : List UInt64 :=
  (events.filter fun e => e.label = label).map (·.value)

section

variable {label : String} {e : Event} {events later : List Event}

theorem valuesOf_append : valuesOf label (events ++ later) =
    valuesOf label events ++ valuesOf label later := by
  simp only [valuesOf, List.filter_append, List.map_append]

theorem valuesOf_concat_self :
    valuesOf e.label (events ++ [e]) = valuesOf e.label events ++ [e.value] := by
  rw [valuesOf_append]
  simp [valuesOf]

theorem valuesOf_concat_of_ne (hne : e.label ≠ label) :
    valuesOf label (events ++ [e]) = valuesOf label events := by
  rw [valuesOf_append]
  simp [valuesOf, hne]

/-- A label that no event carries has no values. -/
theorem valuesOf_eq_nil (habsent : ¬∃ e ∈ events, e.label = label) :
    valuesOf label events = [] := by
  rw [valuesOf, List.map_eq_nil_iff, List.filter_eq_nil_iff]
  exact fun e he hlabel => habsent ⟨e, he, of_decide_eq_true hlabel⟩

/-- A label has at most as many values as there are events. -/
theorem length_valuesOf_le : (valuesOf label events).length ≤ events.length := by
  rw [valuesOf, List.length_map]
  exact List.length_filter_le _ _

theorem valuesOf_perm (hperm : events.Perm later) :
    (valuesOf label events).Perm (valuesOf label later) := (hperm.filter _).map _

end

namespace LabelTally

variable {t t' : LabelTally} {label : String} {value : UInt64} {values values' : List UInt64}

/-- What the entry of a label says of the values that it has taken in, of which there are some. -/
structure Summarizes (t : LabelTally) (values : List UInt64) : Prop where
  count_eq : t.count = values.length
  total_eq : t.total.toNat = min (values.map UInt64.toNat).sum Text.maxWord64
  least_eq : ∃ least ∈ values, t.least = some least ∧ ∀ value ∈ values, least ≤ value
  greatest_eq : ∃ greatest ∈ values, t.greatest = some greatest ∧ ∀ value ∈ values, value ≤ greatest

theorem toNat_saturatingSum (a b : UInt64) :
    (saturatingSum a b).toNat = min (a.toNat + b.toNat) Text.maxWord64 :=
  Text.toNat_word (Nat.min_le_right _ _)

/-- The first value of a label is its least and its greatest one. -/
theorem summarizes_record_empty (label : String) (value : UInt64) :
    ((empty label).record value).Summarizes [value] where
  count_eq := rfl
  total_eq := by
    rw [record, toNat_saturatingSum]
    simp [empty]
  least_eq := ⟨value, List.mem_singleton_self value, rfl,
    fun _ hmem => UInt64.le_of_eq (List.mem_singleton.mp hmem).symm⟩
  greatest_eq := ⟨value, List.mem_singleton_self value, rfl,
    fun _ hmem => UInt64.le_of_eq (List.mem_singleton.mp hmem)⟩

theorem forall_mem_concat {P : UInt64 → Prop} (hold : ∀ v ∈ values, P v) (hnew : P value) :
    ∀ v ∈ values ++ [value], P v :=
  List.forall_mem_append.mpr ⟨hold, List.forall_mem_singleton.mpr hnew⟩

/-- An entry goes on to tell of all its values when it takes in one more. -/
theorem Summarizes.record (h : t.Summarizes values) (value : UInt64) :
    (t.record value).Summarizes (values ++ [value]) where
  count_eq := by rw [count_record, h.count_eq, List.length_append, List.length_singleton]
  total_eq := by
    have htotal : (t.record value).total.toNat =
        min (t.total.toNat + value.toNat) Text.maxWord64 := toNat_saturatingSum _ _
    rw [htotal, h.total_eq, List.map_append, List.sum_append]
    simp only [List.map_cons, List.map_nil, List.sum_cons, List.sum_nil]
    omega
  least_eq := by
    obtain ⟨least, hmem, hleast, hle⟩ := h.least_eq
    have hrecord : (t.record value).least = some (if least ≤ value then least else value) := by
      rw [LabelTally.record, hleast]
      rfl
    by_cases hnew : least ≤ value
    · exact ⟨least, List.mem_append_left _ hmem, hrecord.trans (congrArg some (if_pos hnew)),
        forall_mem_concat hle hnew⟩
    · have hlt : value ≤ least := UInt64.le_of_lt (UInt64.not_le.mp hnew)
      exact ⟨value, List.mem_concat_self, hrecord.trans (congrArg some (if_neg hnew)),
        forall_mem_concat (fun v hv => UInt64.le_trans hlt (hle v hv)) (UInt64.le_refl value)⟩
  greatest_eq := by
    obtain ⟨greatest, hmem, hgreatest, hle⟩ := h.greatest_eq
    have hrecord : (t.record value).greatest =
        some (if greatest ≤ value then value else greatest) := by
      rw [LabelTally.record, hgreatest]
      rfl
    by_cases hnew : greatest ≤ value
    · exact ⟨value, List.mem_concat_self, hrecord.trans (congrArg some (if_pos hnew)),
        forall_mem_concat (fun v hv => UInt64.le_trans (hle v hv) hnew) (UInt64.le_refl value)⟩
    · have hlt : value ≤ greatest := UInt64.le_of_lt (UInt64.not_le.mp hnew)
      exact ⟨greatest, List.mem_append_left _ hmem, hrecord.trans (congrArg some (if_neg hnew)),
        forall_mem_concat hle hlt⟩

/-- What an entry says of its values does not depend on their order. -/
theorem Summarizes.perm (h : t.Summarizes values) (hperm : values.Perm values') :
    t.Summarizes values' where
  count_eq := h.count_eq.trans hperm.length_eq
  total_eq := by rw [h.total_eq, (hperm.map UInt64.toNat).sum_nat]
  least_eq := by
    obtain ⟨least, hmem, hleast, hle⟩ := h.least_eq
    exact ⟨least, hperm.mem_iff.mp hmem, hleast, fun v hv => hle v (hperm.mem_iff.mpr hv)⟩
  greatest_eq := by
    obtain ⟨greatest, hmem, hgreatest, hle⟩ := h.greatest_eq
    exact ⟨greatest, hperm.mem_iff.mp hmem, hgreatest, fun v hv => hle v (hperm.mem_iff.mpr hv)⟩

/-- An entry is determined by its label and its values. -/
theorem Summarizes.unique (h : t.Summarizes values) (h' : t'.Summarizes values)
    (hlabel : t.label = t'.label) : t = t' := by
  obtain ⟨least, hmem, hleast, hle⟩ := h.least_eq
  obtain ⟨least', hmem', hleast', hle'⟩ := h'.least_eq
  obtain ⟨greatest, hgmem, hgreatest, hge⟩ := h.greatest_eq
  obtain ⟨greatest', hgmem', hgreatest', hge'⟩ := h'.greatest_eq
  have hcount : t.count = t'.count := h.count_eq.trans h'.count_eq.symm
  have htotal : t.total = t'.total := UInt64.toNat_inj.mp (h.total_eq.trans h'.total_eq.symm)
  have hsame : least = least' := UInt64.le_antisymm (hle _ hmem') (hle' _ hmem)
  have hgsame : greatest = greatest' := UInt64.le_antisymm (hge' _ hgmem) (hge _ hgmem')
  cases t
  cases t'
  simp_all only

end LabelTally

namespace Tally

variable {t t' : Tally} {e : Event} {label : String} {events events' : List Event}

/-- What the labels of a tally say of the events that it has taken in. -/
structure Tells (t : Tally) (events : List Event) : Prop where
  /-- The labels stand in strictly ascending order, so none stands there twice. -/
  ascending : Ascending t.labels
  /-- They are the labels that occurred. -/
  occurred : ∀ label, (∃ l ∈ t.labels, l.label = label) ↔ ∃ e ∈ events, e.label = label
  /-- The entry of each tells of the values that it occurred with. -/
  summarizes : ∀ l ∈ t.labels, l.Summarizes (valuesOf l.label events)

/-- A tally of nothing tells of no event. -/
theorem tells_empty : empty.Tells [] where
  ascending := List.Pairwise.nil
  occurred label := by simp [empty]
  summarizes l hl := absurd hl List.not_mem_nil

/-- The labels depend only on how often each event occurred. -/
theorem Tells.perm (h : t.Tells events) (hperm : events.Perm events') : t.Tells events' where
  ascending := h.ascending
  occurred label := (h.occurred label).trans
    (exists_congr fun _ => and_congr_left' hperm.mem_iff)
  summarizes l hl := (h.summarizes l hl).perm (valuesOf_perm hperm)

/-- An event that is recorded leaves the entries of other labels as they are. -/
theorem label?_record_of_ne (hne : e.label ≠ label) :
    (t.record e).label? label = t.label? label := entryIn_recordIn_of_ne hne

/-- An event that is recorded goes into the entry of its label, or into a new one. -/
theorem label?_record_self (hlabels : Ascending t.labels) :
    (t.record e).label? e.label =
      some (((t.label? e.label).getD (.empty e.label)).record e.value) :=
  entryIn_recordIn_self hlabels

theorem mem_labels_iff (hlabels : Ascending t.labels) {l : LabelTally} :
    l ∈ t.labels ↔ t.label? l.label = some l := hlabels.mem_iff_entryIn

/-- An entry is found under its own label. -/
theorem label_of_label? {l : LabelTally} (hl : t.label? label = some l) : l.label = label := by
  have hfound := List.find?_some hl
  exact eq_of_beq hfound

/-- A label of which nothing is known has no entry. -/
theorem label?_eq_none_iff : t.label? label = none ↔ ¬∃ l ∈ t.labels, l.label = label := by
  simp [label?]

/-- What the entry of an event's label tells of is the values before and the new one. -/
theorem Tells.record_entry (h : t.Tells events) (e : Event) :
    (((t.label? e.label).getD (.empty e.label)).record e.value).Summarizes
      (valuesOf e.label (events ++ [e])) := by
  rw [valuesOf_concat_self]
  cases hentry : t.label? e.label with
  | none =>
    have habsent : ¬∃ e' ∈ events, e'.label = e.label := by
      rw [← h.occurred]
      exact label?_eq_none_iff.mp hentry
    rw [valuesOf_eq_nil habsent]
    exact LabelTally.summarizes_record_empty e.label e.value
  | some l =>
    have hlabel : l.label = e.label := label_of_label? hentry
    have hl : l ∈ t.labels := List.mem_of_find?_eq_some hentry
    exact hlabel ▸ (h.summarizes l hl).record e.value

/-- A tally goes on to tell of its events when it takes in one more. -/
theorem Tells.record (h : t.Tells events) (e : Event) : (t.record e).Tells (events ++ [e]) := by
  have hascending : Ascending (t.record e).labels := h.ascending.recordIn
  have hself := label?_record_self (e := e) h.ascending
  have hother (label : String) (hne : e.label ≠ label) :
      (∃ l ∈ (t.record e).labels, l.label = label) ↔ ∃ l ∈ t.labels, l.label = label := by
    rw [← not_iff_not, ← label?_eq_none_iff, ← label?_eq_none_iff, label?_record_of_ne hne]
  refine ⟨hascending, fun label => ?_, fun l hl => ?_⟩
  · by_cases hlabel : e.label = label
    · have hentry : ∃ l ∈ (t.record e).labels, l.label = label := by
        rw [← not_not (a := ∃ l ∈ _, _), ← label?_eq_none_iff, ← hlabel, hself]
        exact Option.some_ne_none _
      exact iff_of_true hentry ⟨e, List.mem_concat_self, hlabel⟩
    · rw [hother label hlabel, h.occurred]
      simp [or_and_right, exists_or, hlabel]
  · have hfound : (t.record e).label? l.label = some l := (mem_labels_iff hascending).mp hl
    by_cases hlabel : e.label = l.label
    · rw [← hlabel, hself] at hfound
      have hentry := h.record_entry e
      rw [Option.some.inj hfound] at hentry
      exact hlabel ▸ hentry
    · rw [label?_record_of_ne hlabel] at hfound
      rw [valuesOf_concat_of_ne hlabel]
      exact h.summarizes l ((mem_labels_iff h.ascending).mpr hfound)

/-- The labels are determined by the events that they tell of. -/
theorem Tells.unique (h : t.Tells events) (h' : t'.Tells events) : t.labels = t'.labels := by
  -- An entry of one tally is the entry that the other has under the same label.
  have hsubset {t t' : Tally} (h : t.Tells events) (h' : t'.Tells events) {l : LabelTally}
      (hl : l ∈ t.labels) : l ∈ t'.labels := by
    obtain ⟨l', hl', hlabel⟩ := (h'.occurred l.label).mpr ((h.occurred l.label).mp ⟨l, hl, rfl⟩)
    have hsummarizes := h'.summarizes l' hl'
    rw [hlabel] at hsummarizes
    rw [(h.summarizes l hl).unique hsummarizes hlabel.symm]
    exact hl'
  have hperm : t.labels.Perm t'.labels := by
    rw [List.perm_ext_iff_of_nodup h.ascending.nodup h'.ascending.nodup]
    intro l
    exact ⟨hsubset h h', hsubset h' h⟩
  exact h.ascending.eq_of_perm h'.ascending hperm

/-- No entry counts more than there are events. -/
theorem Tells.count_le (h : t.Tells events) {l : LabelTally} (hl : l ∈ t.labels) :
    l.count ≤ events.length := by
  rw [(h.summarizes l hl).count_eq]
  exact length_valuesOf_le

theorem Tells.congr (h : t.Tells events) (hlabels : t'.labels = t.labels) : t'.Tells events where
  ascending := hlabels ▸ h.ascending
  occurred := hlabels ▸ h.occurred
  summarizes := hlabels ▸ h.summarizes

/-- A tally that has recorded some events tells of them. -/
theorem tells_recordAll (events : List Event) : (empty.recordAll events).Tells events := by
  induction events using List.reverseRecOn with
  | nil => exact tells_empty
  | append_singleton events e ih =>
    rw [recordAll_append]
    exact ih.record e

/-- What a map without an order holds when it has taken in an event: the entry of the event's label,
or a new one, has recorded its value. -/
def takeIn (entries : String → Option LabelTally) (e : Event) (label : String) :
    Option LabelTally :=
  if e.label = label then some (((entries label).getD (.empty label)).record e.value)
  else entries label

/-- A tally finds under each label what a map without an order holds behind the same events. -/
theorem label?_recordAll (events : List Event) (label : String) :
    (empty.recordAll events).label? label = events.foldl takeIn (fun _ => none) label := by
  induction events using List.reverseRecOn generalizing label with
  | nil => rfl
  | append_singleton events e ih =>
    rw [recordAll_append, List.foldl_append]
    simp only [recordAll_cons, recordAll_nil, List.foldl_cons, List.foldl_nil, takeIn, ← ih]
    by_cases hlabel : e.label = label
    · rw [if_pos hlabel, ← hlabel, label?_record_self (tells_recordAll events).ascending]
    · rw [if_neg hlabel, label?_record_of_ne hlabel]

/-- The entries of such a map, in whatever order they are read out, are the labels of the tally once
they are sorted. -/
theorem mergeSort_entries (events : List Event) {entries : List LabelTally}
    (hnodup : entries.Nodup)
    (hentries : ∀ l, l ∈ entries ↔ events.foldl takeIn (fun _ => none) l.label = some l) :
    (entries.mergeSort fun a b => a.label ≤ b.label) = (empty.recordAll events).labels := by
  have hascending : Ascending (empty.recordAll events).labels := (tells_recordAll events).ascending
  have hperm : entries.Perm (empty.recordAll events).labels := by
    rw [List.perm_ext_iff_of_nodup hnodup hascending.nodup]
    intro l
    rw [hentries, ← label?_recordAll, mem_labels_iff hascending]
  have hsorted : (entries.mergeSort fun a b => a.label ≤ b.label).Pairwise
      fun a b => decide (a.label ≤ b.label) = true := by
    refine List.pairwise_mergeSort (fun a b c hab hbc => ?_) (fun a b => ?_) entries
    · exact decide_eq_true (String.le_trans (of_decide_eq_true hab) (of_decide_eq_true hbc))
    · simpa using String.le_total a.label b.label
  have hall := (List.mergeSort_perm entries fun a b => a.label ≤ b.label).trans hperm
  refine List.Perm.eq_of_pairwise ?_ (hsorted.imp of_decide_eq_true)
    (hascending.imp fun hlt => Std.le_of_lt hlt) hall
  -- Of two entries with the same label each is the one that the tally finds under it.
  intro l l' hl hl' hle hge
  have hfound := (mem_labels_iff hascending).mp (hall.mem_iff.mp hl)
  have hfound' := (mem_labels_iff hascending).mp hl'
  rw [String.le_antisymm hle hge] at hfound
  exact Option.some.inj (hfound.symm.trans hfound')

/-- What is counted of a label is the number of the events that carry it. -/
theorem Tells.countOf_eq (h : t.Tells events) (label : String) :
    t.countOf label = countLabel label events := by
  rw [countOf, countLabel, List.countP_eq_length_filter]
  cases hentry : t.label? label with
  | none =>
    have habsent : ¬∃ e ∈ events, e.label = label := by
      rw [← h.occurred]
      exact label?_eq_none_iff.mp hentry
    have hvalues := congrArg List.length (valuesOf_eq_nil habsent)
    rw [valuesOf, List.length_map] at hvalues
    exact hvalues.symm
  | some l =>
    have hlabel : l.label = label := label_of_label? hentry
    have hcount := (h.summarizes l (List.mem_of_find?_eq_some hentry)).count_eq
    rw [hlabel, valuesOf, List.length_map] at hcount
    exact hcount

/-- What a user of a trial does to the tally. -/
inductive Deed
  | event (e : Event)
  | success
  | failure
  | userFailure

namespace Deed

/-- The event that it brings, if any. -/
def event? : Deed → Option Event
  | .event e => some e
  | _ => none

/-- The tally behind it. -/
def perform (t : Tally) : Deed → Tally
  | .event e => t.record e
  | .success => t.countSuccess
  | .failure => t.countFailure
  | .userFailure => t.countUserFailure

end Deed

/-- The tally behind deeds, in whatever order the users get to do theirs. -/
def performAll (deeds : List Deed) (t : Tally) : Tally := deeds.foldl Deed.perform t

/-- The events among deeds. -/
def eventsIn (deeds : List Deed) : List Event := deeds.filterMap Deed.event?

/-- Counting does not touch the labels. -/
theorem labels_perform {deed : Deed} (hcount : deed.event? = none) (t : Tally) :
    (deed.perform t).labels = t.labels := by
  cases deed with
  | event e => exact absurd hcount (Option.some_ne_none e)
  | success => rfl
  | failure => rfl
  | userFailure => rfl

/-- The labels behind deeds are those behind the events among them. -/
theorem labels_performAll (deeds : List Deed) (t : Tally) :
    (t.performAll deeds).labels = (t.recordAll (eventsIn deeds)).labels := by
  induction deeds generalizing t with
  | nil => rfl
  | cons deed deeds ih =>
    have hrest := ih (deed.perform t)
    cases deed with
    | event e => exact hrest
    | success | failure | userFailure =>
      exact hrest.trans (recordAll_labels_congr (labels_perform rfl t) (eventsIn deeds))

/-- Behind any deeds a tally tells of the events among them. -/
theorem tells_performAll (deeds : List Deed) : (empty.performAll deeds).Tells (eventsIn deeds) :=
  (tells_recordAll (eventsIn deeds)).congr (labels_performAll deeds empty)

/-- The labels of a tally are exactly those that occurred, in strictly ascending order, each with
the number, the sum (at most the largest word), the least and the greatest of its values; the number
fits a word unless the events outgrow one. So the labels are the same for the same events in another
order and with other counts in between. An event touches no entry but its own and no counter, and
counting touches no label. -/
theorem labels_tell_events (deeds : List Deed) :
    (empty.performAll deeds).Tells (eventsIn deeds) ∧
    ((eventsIn deeds).length ≤ Text.maxWord64 →
      ∀ l ∈ (empty.performAll deeds).labels, l.count ≤ Text.maxWord64) ∧
    (∀ deeds', (eventsIn deeds).Perm (eventsIn deeds') →
      (empty.performAll deeds).labels = (empty.performAll deeds').labels) ∧
    (∀ (t : Tally) (e : Event),
      (t.record e).completed = t.completed ∧ (t.record e).failed = t.failed ∧
      (t.record e).usersFailed = t.usersFailed ∧
      ∀ label, e.label ≠ label → (t.record e).label? label = t.label? label) ∧
    ∀ (t : Tally) (deed : Deed), deed.event? = none → (deed.perform t).labels = t.labels := by
  refine ⟨tells_performAll deeds, fun hfew l hl => ?_, fun deeds' hperm => ?_,
    fun t e => ⟨rfl, rfl, rfl, ?_⟩, ?_⟩
  · exact Nat.le_trans ((tells_performAll deeds).count_le hl) hfew
  · exact ((tells_performAll deeds).perm hperm).unique (tells_performAll deeds')
  · intro label hne
    exact label?_record_of_ne hne
  · intro t deed hcount
    exact labels_perform hcount t

/-- Two allocations, one of them as slow as can be told, and a gauge between them: the other way
round and with other counts they tell the same. -/
theorem labels_tell_events_of_two_users :
    let replicas : Event := ⟨"ReadyReplicas", 2, 0, 10⟩
    let slow : Event := ⟨"GameServerAllocated", 18446744073709551615, 0, 11⟩
    let fast : Event := ⟨"GameServerAllocated", 5, 0, 12⟩
    let deeds : List Deed := [.event slow, .event replicas, .success, .event fast, .success]
    let deeds' : List Deed := [.userFailure, .event fast, .failure, .event replicas, .event slow]
    (eventsIn deeds).Perm (eventsIn deeds') ∧
    (empty.performAll deeds).labels = (empty.performAll deeds').labels ∧
    (eventsIn deeds).length ≤ Text.maxWord64 ∧
    (∀ l ∈ (empty.performAll deeds).labels, l.count ≤ Text.maxWord64) ∧
    (empty.performAll deeds).labels =
      [⟨"GameServerAllocated", 2, 18446744073709551615, some 5, some 18446744073709551615⟩,
        ⟨"ReadyReplicas", 1, 2, some 2, some 2⟩] ∧
    (empty.record slow).label? replicas.label = none ∧
    (Deed.success.perform (empty.record slow)).labels = (empty.record slow).labels := by
  intro replicas slow fast deeds deeds'
  have hperm : (eventsIn deeds).Perm (eventsIn deeds') := by decide
  have hfew : (eventsIn deeds).length ≤ Text.maxWord64 := by decide
  obtain ⟨_, hcounts, hsame, hevent, hcount⟩ := labels_tell_events deeds
  obtain ⟨_, _, _, hother⟩ := hevent empty slow
  exact ⟨hperm, hsame deeds' hperm, hfew, hcounts hfew, by decide,
    hother replicas.label (by decide), hcount (empty.record slow) .success rfl⟩

end Tally

end FleetTrial
