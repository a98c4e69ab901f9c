import FleetTrial.Crash
import FleetTrial.Measurement.Event
import FleetTrial.Text.Number

/-!
# Tallies

A tally gathers the events of a trial by label, and counts attempts and failed users. The labels
stand in ascending order, each once: a map in whatever order, sorted when it is read out, tells the
same. The sum of a label's values stops at the largest 64-bit word, while the counters of attempts
and users start again from zero beyond it. The number of a label's values fits such a word as long
as there are not more events than that.
-/

namespace FleetTrial

/-- What is known of one label. -/
structure LabelTally where
  label : String
  count : Nat
  /-- The sum of the values, at most the largest 64-bit word. -/
  total : UInt64
  least : Option UInt64
  greatest : Option UInt64
  deriving DecidableEq, Repr

namespace LabelTally

/-- A label of which nothing has been recorded. -/
def empty (label : String) : LabelTally := ⟨label, 0, 0, none, none⟩

/-- The sum of two words, at most the largest word. -/
def saturatingSum (a b : UInt64) : UInt64 := UInt64.ofNat (min (a.toNat + b.toNat) Text.maxWord64)

/-- Takes in one more value. -/
def record (value : UInt64) (t : LabelTally) : LabelTally where
  label := t.label
  count := t.count + 1
  total := saturatingSum t.total value
  least := some (match t.least with
    | none => value
    | some least => min least value)
  greatest := some (match t.greatest with
    | none => value
    | some greatest => max greatest value)

/-- The mean of the values, zero if there are none. -/
def mean (t : LabelTally) : Float :=
  if t.count = 0 then 0 else t.total.toFloat / (UInt64.ofNat t.count).toFloat

end LabelTally

/-- What a trial has counted and measured. -/
structure Tally where
  /-- Attempts that reached an outcome. -/
  completed : UInt64
  /-- Attempts that timed out or ended in an error. -/
  failed : UInt64
  /-- Users that could not start. -/
  usersFailed : UInt64
  /-- The labels, in ascending order. -/
  labels : List LabelTally
  deriving DecidableEq, Repr

namespace Tally

/-- A tally of nothing. -/
def empty : Tally := ⟨0, 0, 0, []⟩

/-- Takes a value into its place among labels in ascending order. -/
def recordIn (label : String) (value : UInt64) : List LabelTally → List LabelTally
  | [] => [(LabelTally.empty label).record value]
  | t :: rest =>
    if label = t.label then t.record value :: rest
    else if label < t.label then (LabelTally.empty label).record value :: t :: rest
    else t :: recordIn label value rest

/-- Takes in an event. -/
def record (e : Event) (t : Tally) : Tally :=
  { t with labels := recordIn e.label e.value t.labels }

/-- Counts an attempt that reached an outcome. -/
def countSuccess (t : Tally) : Tally := { t with completed := t.completed + 1 }

/-- Counts an attempt that timed out or ended in an error. -/
def countFailure (t : Tally) : Tally := { t with failed := t.failed + 1 }

/-- Counts a user that could not start. -/
def countUserFailure (t : Tally) : Tally := { t with usersFailed := t.usersFailed + 1 }

/-- What is known of a label. -/
def label? (label : String) (t : Tally) : Option LabelTally :=
  t.labels.find? fun l => l.label == label

/-- How many events of a label were recorded. -/
def countOf (label : String) (t : Tally) : Nat := ((t.label? label).map (·.count)).getD 0

/-- All attempts that were counted; their number may outgrow its word. -/
def attempts (t : Tally) : Except Crash UInt64 :=
  if t.completed.toNat + t.failed.toNat ≤ Text.maxWord64 then .ok (t.completed + t.failed)
  else .error .overflow

/-- The percentage of attempts that reached an outcome; of no attempts, all did. -/
def successRate (t : Tally) : Except Crash Float :=
  t.attempts.map fun total =>
    if total = 0 then 100 else t.completed.toFloat / total.toFloat * 100

end Tally

end FleetTrial
