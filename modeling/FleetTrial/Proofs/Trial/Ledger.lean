import FleetTrial.Proofs.Measurement.Aggregate
import FleetTrial.Trial.User

/-!
# What users enter in the tally

All that a user does to the tally is told by one entry for each time that it goes on: the events
that it publishes, how its attempt has ended, and whether it could not be started. The tally behind
some entries is told by how many of them are of each kind.
-/

namespace FleetTrial

/-- What a user enters in the tally when it goes on. -/
structure Entry where
  /-- The events that it publishes. -/
  events : List Event
  /-- How its attempt has ended, if it has. -/
  result : Option (Except TrialError Outcome)
  /-- Whether it could not be started. -/
  refused : Bool

namespace Entry

/-- An entry that changes nothing. -/
def blank : Entry := ⟨[], none, false⟩

/-- Whether an attempt that has ended so is completed. -/
def isCompletion : Except TrialError Outcome → Bool
  | .ok .allocated | .ok .unallocated => true
  | .ok .timedOut | .error _ => false

/-- Whether an attempt that has ended so has timed out. -/
def isTimeout : Except TrialError Outcome → Bool
  | .ok .timedOut => true
  | _ => false

/-- Whether an attempt has ended completed. -/
def isCompleted (e : Entry) : Bool := e.result.any isCompletion

/-- Whether an attempt has timed out. -/
def isTimedOut (e : Entry) : Bool := e.result.any isTimeout

/-- Whether an attempt has ended in an error. -/
def isError (e : Entry) : Bool := e.result.any fun result => !result.isOk

/-- Whether an attempt has ended, but not completed. -/
def isFailed (e : Entry) : Bool := e.result.any fun result => !isCompletion result

/-- An attempt that has ended is completed or failed, and not both. -/
theorem isCompleted_add_isFailed (e : Entry) :
    e.isCompleted.toNat + e.isFailed.toNat = e.result.isSome.toNat := by
  obtain ⟨events, result, refused⟩ := e
  rcases result with _ | (_ | (_ | _ | _)) <;> rfl

/-- An attempt that is not completed has timed out or has ended in an error, and not both. -/
theorem countP_isFailed (entries : List Entry) :
    entries.countP isFailed = entries.countP isTimedOut + entries.countP isError := by
  induction entries with
  | nil => rfl
  | cons e entries ih =>
    obtain ⟨events, result, refused⟩ := e
    rw [List.countP_cons, List.countP_cons, List.countP_cons, ih]
    rcases result with _ | (error | (_ | _ | _)) <;>
      simp +arith [isFailed, isTimedOut, isError, isCompletion, isTimeout, Except.isOk,
        Except.toBool]

end Entry

/-- How an attempt has ended, if it has. -/
def Attempt.result? : Attempt → Option (Except TrialError Outcome)
  | .over result => some result
  | _ => none

/-- What a user enters in the tally when it goes on with an answer. -/
def User.entry (s : Settings) (m : Moment) (answer : Answer) (u : User) : Entry :=
  match u.activity, answer with
  | .connecting _, .refused _ => ⟨[], none, true⟩
  | .attempting _, .interrupted => .blank
  | .attempting attempt, answer =>
    ⟨(attempt.resume s m answer).2, (attempt.resume s m answer).1.result?, false⟩
  | _, _ => .blank

namespace Tally

variable {t : Tally}

/-- Takes in an entry. -/
def enter (e : Entry) (t : Tally) : Tally :=
  let recorded := t.recordAll e.events
  let counted := match e.result with
    | none => recorded
    | some result => User.count result recorded
  if e.refused then counted.countUserFailure else counted

/-- Takes in entries in order. -/
def enterAll (entries : List Entry) (t : Tally) : Tally := entries.foldl (fun t e => t.enter e) t

@[simp] theorem enterAll_cons (e : Entry) (entries : List Entry) :
    t.enterAll (e :: entries) = (t.enter e).enterAll entries := rfl

theorem enterAll_concat (entries : List Entry) (e : Entry) :
    t.enterAll (entries ++ [e]) = (t.enterAll entries).enter e := by
  simp only [enterAll, List.foldl_append, List.foldl_cons, List.foldl_nil]

/-- What an entry does to each part of a tally. -/
theorem enter_eq (e : Entry) (t : Tally) :
    t.enter e = {
      completed := t.completed + if e.isCompleted then 1 else 0
      failed := t.failed + if e.isFailed then 1 else 0
      usersFailed := t.usersFailed + if e.refused then 1 else 0
      labels := (t.recordAll e.events).labels } := by
  obtain ⟨events, result, refused⟩ := e
  have hrecorded : t.recordAll events =
      ⟨t.completed, t.failed, t.usersFailed, (t.recordAll events).labels⟩ := by
    rw [← recordAll_completed events, ← recordAll_failed events, ← recordAll_usersFailed events]
  simp only [enter]
  rw [hrecorded]
  rcases result with _ | (error | (_ | _ | _)) <;> cases refused <;>
    simp [User.count, countSuccess, countFailure, countUserFailure, Entry.isCompleted,
      Entry.isFailed, Entry.isCompletion]

/-- A counter that goes up with the entries of one kind counts them. -/
theorem enterAll_counter {counter : Tally → UInt64} {kind : Entry → Bool}
    (hcounter : ∀ e t, counter (t.enter e) = counter t + if kind e then 1 else 0)
    (entries : List Entry) :
    counter (t.enterAll entries) = counter t + UInt64.ofNat (entries.countP kind) := by
  induction entries generalizing t with
  | nil => exact (UInt64.add_zero _).symm
  | cons e entries ih =>
    rw [enterAll_cons, ih, hcounter,
      List.countP_cons, UInt64.ofNat_add, UInt64.add_assoc, UInt64.add_comm (UInt64.ofNat _)]
    split <;> rfl

/-- The counter of completed attempts counts the entries of such. -/
theorem enterAll_completed (entries : List Entry) :
    (t.enterAll entries).completed =
      t.completed + UInt64.ofNat (entries.countP Entry.isCompleted) :=
  enterAll_counter (fun e t => by rw [enter_eq]) entries

/-- The counter of failed attempts counts the entries of such. -/
theorem enterAll_failed (entries : List Entry) :
    (t.enterAll entries).failed = t.failed + UInt64.ofNat (entries.countP Entry.isFailed) :=
  enterAll_counter (fun e t => by rw [enter_eq]) entries

/-- The labels behind entries are those behind all their events. -/
theorem enterAll_labels (entries : List Entry) :
    (t.enterAll entries).labels = (t.recordAll (entries.flatMap Entry.events)).labels := by
  induction entries generalizing t with
  | nil => rfl
  | cons e entries ih =>
    rw [enterAll_cons, ih,
      List.flatMap_cons, recordAll_append]
    exact recordAll_labels_congr (by rw [enter_eq]) _

/-- Behind entries a tally tells of all their events. -/
theorem tells_enterAll (entries : List Entry) :
    (empty.enterAll entries).Tells (entries.flatMap Entry.events) :=
  (tells_recordAll _).congr (enterAll_labels entries)

/-- What is counted of a label behind entries is the number of their events that carry it. -/
theorem countOf_enterAll (label : String) (entries : List Entry) :
    (empty.enterAll entries).countOf label = countLabel label (entries.flatMap Entry.events) :=
  (tells_enterAll entries).countOf_eq label

end Tally

end FleetTrial
