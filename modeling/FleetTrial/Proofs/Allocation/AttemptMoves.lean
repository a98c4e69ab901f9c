import FleetTrial.Allocation.Attempt
import FleetTrial.Proofs.Task.Run

/-!
# The moves of an attempt

An attempt goes on in one of five ways. The number of ready replicas is published by the move that
takes in the answer to the request for the allocation, and an outcome by the move that ends the
attempt with it; no other move publishes anything.
-/

namespace FleetTrial

/-- Whether a moment shows two Unix times, one at each look at the clock. -/
def Moment.Shows (m : Moment) (unix : Int × Int) : Prop :=
  m.unix = .ok unix.1 ∧ m.unixAgain = .ok unix.2

/-- Whether the Unix times of a moment can be told. -/
def Moment.IsReadable (m : Moment) : Prop := ∃ unix, m.Shows unix

/-- The moment at which every clock stands at its origin. -/
def Moment.origin : Moment := ⟨⟨0⟩, ⟨0⟩, .ok 0, .ok 0, .zero, 0⟩

/-- The Unix time of the origin is zero. -/
theorem Moment.isReadable_origin : origin.IsReadable := ⟨(0, 0), rfl, rfl⟩

namespace Attempt

/-- The event of the number of ready replicas. -/
def gauge (unix : Int) (ready : UInt64) : Event := ⟨Event.readyReplicasLabel, ready, 0, unix⟩

/-- The event of an outcome. -/
def verdict (unix : Int) (outcome : Outcome) (millis : UInt64) : Event :=
  ⟨outcome.label, millis, 0, unix⟩

/-- What becomes of an attempt whose watch has gone on, with the events that it publishes when the
clock is looked at for the second time. -/
inductive Settled (unix : Int × Int) : Attempt → List Event → Prop
  | watching (w : Watch) : Settled unix (.watching w) []
  | ended (outcome : Outcome) (millis : UInt64) :
    Settled unix (.over (.ok outcome)) [verdict unix.2 outcome millis]
  | failed (e : TrialError) : Settled unix (.over (.error e)) []

/-- The moves of an attempt: the attempt, the answer it gets, what becomes of it and the events
that it publishes. -/
inductive Move (unix : Int × Int) : Attempt → Answer → Attempt → List Event → Prop
  | sampled (fleet : Snapshot) (ready : UInt64) (now : Instant) :
    Move unix .sampling (.reply (.ok fleet)) (.requesting ready now) []
  | unsampled (result : Except TrialError Snapshot) (e : TrialError) :
    Move unix .sampling (.reply result) (.over (.error e)) []
  | rejected (ready : UInt64) (postedAt : Instant) (e : TrialError) :
    Move unix (.requesting ready postedAt) (.reply (.error e)) (.over (.error e)) []
  | posted (ready : UInt64) (postedAt : Instant) (initial : Snapshot) {a : Attempt}
    {events : List Event} (hsettled : Settled unix a events) :
    Move unix (.requesting ready postedAt) (.reply (.ok initial)) a (gauge unix.1 ready :: events)
  | watched (w : Watch) {answer : Answer} (hanswer : answer ≠ .interrupted) {a : Attempt}
    {events : List Event} (hsettled : Settled unix a events) :
    Move unix (.watching w) answer a events

variable {s : Settings} {m : Moment} {unix : Int × Int} {answer : Answer} {a : Attempt}

/-- A watch that goes on leaves its attempt settled. -/
theorem settled_settle (hunix : m.Shows unix) (w : Watch) :
    Settled unix (settle m w).1 (settle m w).2 := by
  unfold settle
  split
  · exact .failed _
  · simp only [stamp, hunix.2, Except.map]
    exact .ended _ _
  · exact .watching _

/-- An attempt that gets what it waits for makes one of the moves. -/
theorem move_resume (hunix : m.Shows unix) (hadmits : (a.wait s).Admits answer) :
    Move unix a answer (a.resume s m answer).1 (a.resume s m answer).2 := by
  cases a with
  | sampling =>
    cases hadmits with
    | replied _ result =>
      cases result with
      | error e => exact .unsampled _ e
      | ok fleet =>
        simp only [resume, sample]
        split
        · exact .unsampled _ _
        · exact .sampled fleet _ _
  | requesting ready postedAt =>
    cases hadmits with
    | replied _ result =>
      cases result with
      | error e => exact .rejected ready postedAt e
      | ok initial =>
        simp only [resume, posted, stamp, hunix.1, Except.map]
        exact .posted ready postedAt initial (settled_settle hunix _)
  | watching w =>
    obtain ⟨hanswer, hcrash⟩ := hadmits.ordinary
    have hresume : resume s m answer (.watching w) = settle m (w.resume m.readings answer) := by
      cases answer with
      | crashed crash => exact absurd rfl (hcrash crash)
      | reply result => cases result <;> rfl
      | _ => rfl
    rw [hresume]
    exact .watched w hanswer (settled_settle hunix _)
  | «over» result => cases hadmits
  | crashed crash => cases hadmits

/-- No interruption makes an attempt go on. -/
theorem Move.ne_interrupted {a' : Attempt} {events : List Event}
    (hmove : Move unix a answer a' events) : answer ≠ .interrupted := by
  cases hmove with
  | sampled | unsampled | rejected | posted => nofun
  | watched _ hanswer => exact hanswer

end Attempt

end FleetTrial
