import FleetTrial.Measurement.Tally

/-!
# Recording events

A tally keeps its labels in strictly ascending order, so an event that is recorded is found in the
entry of its own label, and the entries of other labels stay as they are. Recording does not touch
the counters of attempts and users.
-/

namespace FleetTrial

namespace LabelTally

@[simp] theorem label_empty (label : String) : (empty label).label = label := rfl

@[simp] theorem label_record (value : UInt64) (t : LabelTally) :
    (t.record value).label = t.label := rfl

@[simp] theorem count_record (value : UInt64) (t : LabelTally) :
    (t.record value).count = t.count + 1 := rfl

end LabelTally

/-- How many events carry a label. -/
def countLabel (label : String) (events : List Event) : Nat :=
  events.countP fun e => e.label = label

namespace Tally

variable {t : Tally} {e : Event} {label key : String} {value : UInt64} {labels : List LabelTally}

/-- Records events in order. -/
def recordAll (events : List Event) (t : Tally) : Tally := events.foldl (fun t e => t.record e) t

@[simp] theorem recordAll_nil : t.recordAll [] = t := rfl

@[simp] theorem recordAll_cons (e : Event) (events : List Event) :
    t.recordAll (e :: events) = (t.record e).recordAll events := rfl

theorem recordAll_append (events later : List Event) :
    t.recordAll (events ++ later) = (t.recordAll events).recordAll later := List.foldl_append

@[simp] theorem recordAll_completed (events : List Event) :
    (t.recordAll events).completed = t.completed := by
  induction events generalizing t with
  | nil => rfl
  | cons e events ih => exact ih

@[simp] theorem recordAll_failed (events : List Event) :
    (t.recordAll events).failed = t.failed := by
  induction events generalizing t with
  | nil => rfl
  | cons e events ih => exact ih

@[simp] theorem recordAll_usersFailed (events : List Event) :
    (t.recordAll events).usersFailed = t.usersFailed := by
  induction events generalizing t with
  | nil => rfl
  | cons e events ih => exact ih

/-- Recorded labels depend on nothing but the labels before. -/
theorem recordAll_labels_congr {t' : Tally} (hlabels : t.labels = t'.labels)
    (events : List Event) : (t.recordAll events).labels = (t'.recordAll events).labels := by
  induction events generalizing t t' with
  | nil => exact hlabels
  | cons e events ih => exact ih (by simp only [record, hlabels])

/-- Whether labels stand in strictly ascending order. -/
def Ascending (labels : List LabelTally) : Prop := labels.Pairwise fun a b => a.label < b.label

/-- In ascending order no entry stands twice. -/
theorem Ascending.nodup (hlabels : Ascending labels) : labels.Nodup :=
  hlabels.imp fun hlt heq => String.ne_of_lt hlt (congrArg LabelTally.label heq)

/-- Ascending labels are determined by the entries among them. -/
theorem Ascending.eq_of_perm {labels' : List LabelTally} (hlabels : Ascending labels)
    (hlabels' : Ascending labels') (hperm : labels.Perm labels') : labels = labels' := by
  refine hperm.eq_of_pairwise ?_ hlabels hlabels'
  intro l l' _ _ hlt hgt
  exact absurd (String.lt_trans hlt hgt) (String.lt_irrefl _)

/-- Every label behind a recording is the recorded one or was there before. -/
theorem label_of_mem_recordIn {l : LabelTally} (hl : l ∈ recordIn key value labels) :
    l.label = key ∨ ∃ l' ∈ labels, l'.label = l.label := by
  induction labels with
  | nil =>
    rw [recordIn, List.mem_singleton] at hl
    exact .inl (by rw [hl]; rfl)
  | cons first rest ih =>
    unfold recordIn at hl
    split at hl
    · rename_i hkey
      rcases List.mem_cons.mp hl with rfl | hrest
      · exact .inl hkey.symm
      · exact .inr ⟨l, List.mem_cons_of_mem first hrest, rfl⟩
    · split at hl
      · rcases List.mem_cons.mp hl with rfl | hold
        · exact .inl rfl
        · exact .inr ⟨l, hold, rfl⟩
      · rcases List.mem_cons.mp hl with rfl | hrest
        · exact .inr ⟨l, List.mem_cons_self, rfl⟩
        · rcases ih hrest with hkey | ⟨l', hl', hlabel⟩
          · exact .inl hkey
          · exact .inr ⟨l', List.mem_cons_of_mem first hl', hlabel⟩

/-- Recording keeps labels in ascending order. -/
theorem Ascending.recordIn (hlabels : Ascending labels) :
    Ascending (recordIn key value labels) := by
  induction labels with
  | nil => exact List.pairwise_singleton _ _
  | cons first rest ih =>
    obtain ⟨hfirst, hrest⟩ := List.pairwise_cons.mp hlabels
    unfold Tally.recordIn
    split
    · exact List.pairwise_cons.mpr ⟨hfirst, hrest⟩
    rename_i hne
    split
    · rename_i hlt
      refine List.pairwise_cons.mpr ⟨fun l hl => ?_, hlabels⟩
      rcases List.mem_cons.mp hl with rfl | hl
      · exact hlt
      · exact String.lt_trans hlt (hfirst l hl)
    · rename_i hge
      refine List.pairwise_cons.mpr ⟨fun l hl => ?_, ih hrest⟩
      rcases label_of_mem_recordIn hl with hkey | ⟨l', hl', hlabel⟩
      · rw [hkey]
        exact String.not_le.mp fun hle => hne (String.le_antisymm hle (String.not_lt.mp hge))
      · exact hlabel ▸ hfirst l' hl'

/-- The entry of a label, if it has one. -/
def entryIn (label : String) (labels : List LabelTally) : Option LabelTally :=
  labels.find? fun l => l.label == label

theorem entryIn_cons (label : String) (l : LabelTally) (labels : List LabelTally) :
    entryIn label (l :: labels) = if l.label = label then some l else entryIn label labels := by
  unfold entryIn
  by_cases h : l.label = label <;> simp [h]

/-- A label that stands behind all labels in question has no entry among them. -/
theorem entryIn_eq_none (habsent : ∀ l ∈ labels, label < l.label) :
    entryIn label labels = none := by
  induction labels with
  | nil => rfl
  | cons l labels ih =>
    have hne : l.label ≠ label := (String.ne_of_lt (habsent l List.mem_cons_self)).symm
    rw [entryIn_cons, if_neg hne]
    exact ih fun l' hl' => habsent l' (List.mem_cons_of_mem l hl')

/-- In ascending order every entry is found under its label. -/
theorem Ascending.mem_iff_entryIn (hlabels : Ascending labels) {l : LabelTally} :
    l ∈ labels ↔ entryIn l.label labels = some l := by
  refine ⟨fun hl => ?_, List.mem_of_find?_eq_some⟩
  induction labels with
  | nil => exact absurd hl List.not_mem_nil
  | cons first rest ih =>
    obtain ⟨hfirst, hrest⟩ := List.pairwise_cons.mp hlabels
    rw [entryIn_cons]
    rcases List.mem_cons.mp hl with rfl | hl
    · exact if_pos rfl
    · rw [if_neg (String.ne_of_lt (hfirst l hl))]
      exact ih hrest hl

/-- A recorded value leaves the entries of other labels as they are. -/
theorem entryIn_recordIn_of_ne (hne : key ≠ label) :
    entryIn label (recordIn key value labels) = entryIn label labels := by
  induction labels with
  | nil => exact (entryIn_cons label _ []).trans (if_neg hne)
  | cons first rest ih =>
    unfold recordIn
    split
    · rename_i hkey
      rw [entryIn_cons, entryIn_cons, LabelTally.label_record, if_neg (hkey ▸ hne),
        if_neg (hkey ▸ hne)]
    split
    · rw [entryIn_cons, LabelTally.label_record, LabelTally.label_empty, if_neg hne]
    · rw [entryIn_cons, entryIn_cons, ih]

/-- A recorded value goes into the entry of its label, or into a new one. -/
theorem entryIn_recordIn_self (hlabels : Ascending labels) :
    entryIn key (recordIn key value labels) =
      some (((entryIn key labels).getD (.empty key)).record value) := by
  induction labels with
  | nil => exact (entryIn_cons key _ []).trans (if_pos rfl)
  | cons first rest ih =>
    obtain ⟨hfirst, hrest⟩ := List.pairwise_cons.mp hlabels
    unfold recordIn
    split
    · rename_i hkey
      rw [entryIn_cons, entryIn_cons, LabelTally.label_record, if_pos hkey.symm, if_pos hkey.symm]
      rfl
    rename_i hne
    split
    · rename_i hlt
      have habsent : entryIn key (first :: rest) = none := by
        refine entryIn_eq_none fun l hl => ?_
        rcases List.mem_cons.mp hl with rfl | hl
        · exact hlt
        · exact String.lt_trans hlt (hfirst l hl)
      rw [habsent, entryIn_cons, LabelTally.label_record]
      exact if_pos rfl
    · rw [entryIn_cons, entryIn_cons, if_neg (Ne.symm hne), if_neg (Ne.symm hne), ih hrest]

end Tally

end FleetTrial
