import FleetTrial.Proofs.Trial.UserMoves

/-!
# What becomes of requested allocations

An allocation whose request has been answered with a snapshot is being watched, until its attempt
ends or the user drops it: when a signal interrupts the watch, or when the answer that would have it
go on comes together with a signal. Each move of a user publishes one number of ready replicas for
each such answer, and one outcome for each attempt that ends with one; and each allocation that a
user begins to watch is accounted for by the move that ends the watch.
-/

namespace FleetTrial

/-- Whether an answer is a snapshot of an allocation that was requested at a path. -/
def Wait.grantsAt (path : String) (w : Wait) (answer : Answer) : Bool :=
  match w, answer with
  | .reply (.create path' _), .reply (.ok _) => path' == path
  | _, _ => false

/-- The events of an entry tell how its attempt has ended, and whether it has just been `granted` an
allocation. -/
structure Entry.Tells (e : Entry) (granted : Bool) : Prop where
  completed : countLabel Outcome.allocated.label e.events +
    countLabel Outcome.unallocated.label e.events = e.isCompleted.toNat
  timedOut : countLabel Outcome.timedOut.label e.events = e.isTimedOut.toNat
  replicas : countLabel Event.readyReplicasLabel e.events = granted.toNat

/-- An entry accounts for an allocation that has just been granted, or was watched before: its
attempt has ended, or the allocation is dropped, or it is watched still. -/
structure Entry.Balances (e : Entry) (granted watched dropped watching : Bool) : Prop where
  tells : e.Tells granted
  allocations : granted.toNat + watched.toNat =
    e.isCompleted.toNat + e.isTimedOut.toNat + (e.isError && (granted || watched)).toNat +
      dropped.toNat + watching.toNat

/-- What is watched still may just as well be dropped. -/
theorem Entry.Balances.drop {e : Entry} {granted watched watching : Bool}
    (hbalances : e.Balances granted watched false watching) :
    e.Balances granted watched watching false where
  tells := hbalances.tells
  allocations := hbalances.allocations

namespace Attempt

variable {s : Settings} {unix : Int × Int} {a a' : Attempt} {answer : Answer} {events : List Event}

/-- Whether an attempt watches its allocation. -/
def isWatching : Attempt → Bool
  | .watching _ => true
  | _ => false

/-- What an attempt enters in the tally when it has become `a` and has published events. -/
def entry (a : Attempt) (events : List Event) : Entry := ⟨events, a.result?, false⟩

/-- A settled attempt has published its outcome, if it has one. -/
theorem Settled.balances (hsettled : Settled unix a events) :
    (a.entry events).Balances false true false a.isWatching := by
  cases hsettled with
  | watching => exact ⟨⟨rfl, rfl, rfl⟩, rfl⟩
  | ended outcome => cases outcome <;> exact ⟨⟨rfl, rfl, rfl⟩, rfl⟩
  | failed => exact ⟨⟨rfl, rfl, rfl⟩, rfl⟩

/-- The number of ready replicas comes on top of what a settled attempt has published. -/
theorem Settled.balances_gauge (hsettled : Settled unix a events) (ready : UInt64) :
    (a.entry (gauge unix.1 ready :: events)).Balances true false false a.isWatching := by
  cases hsettled with
  | watching => exact ⟨⟨rfl, rfl, rfl⟩, rfl⟩
  | ended outcome => cases outcome <;> exact ⟨⟨rfl, rfl, rfl⟩, rfl⟩
  | failed => exact ⟨⟨rfl, rfl, rfl⟩, rfl⟩

/-- Each move of an attempt balances, and drops nothing. -/
theorem Move.balances (hmove : Move unix a answer a' events) :
    (a'.entry events).Balances ((a.wait s).grantsAt s.allocationsPath answer) a.isWatching false
      a'.isWatching := by
  cases hmove with
  | sampled => exact ⟨⟨rfl, rfl, rfl⟩, rfl⟩
  | unsampled => exact ⟨⟨rfl, rfl, rfl⟩, rfl⟩
  | rejected => exact ⟨⟨rfl, rfl, rfl⟩, rfl⟩
  | posted ready postedAt initial hsettled =>
    have hgranted : (wait s (.requesting ready postedAt)).grantsAt s.allocationsPath
        (.reply (.ok initial)) = true := beq_self_eq_true _
    rw [hgranted]
    exact hsettled.balances_gauge ready
  | watched w _ hsettled =>
    have hwatch : (wait s (.watching w)).grantsAt s.allocationsPath answer = false := by
      cases w <;> rfl
    rw [hwatch]
    exact hsettled.balances

end Attempt

namespace User

variable {s : Settings} {m : Moment} {unix : Int × Int} {u u' : User} {answer : Answer}
  {entry : Entry}

/-- Whether a user watches an allocation. -/
def isWatching (u : User) : Bool :=
  match u.activity with
  | .attempting attempt => attempt.isWatching
  | _ => false

/-- Whether an answer grants a user the allocation that it has requested. -/
def isGranted (s : Settings) (answer : Answer) (u : User) : Bool :=
  (u.wait s).grantsAt s.allocationsPath answer

/-- Whether an answer makes a user drop an allocation that it watches, or that it has just been
granted. -/
def isDropped (s : Settings) (m : Moment) (answer : Answer) (u : User) : Bool :=
  match u.activity, answer with
  | .attempting attempt, .interrupted => attempt.isWatching
  | .attempting attempt, answer => 0 < u.signals && (attempt.resume s m answer).1.isWatching
  | _, _ => false

/-- Whether an answer makes a user fail at watching an allocation. -/
def failsWatch (s : Settings) (m : Moment) (answer : Answer) (u : User) : Bool :=
  (u.entry s m answer).isError && (u.isGranted s answer || u.isWatching)

/-- A user that is in no attempt is granted nothing. -/
theorem isGranted_eq_false (hidle : ∀ attempt, u.activity ≠ .attempting attempt) :
    u.isGranted s answer = false := by
  unfold isGranted wait
  split
  · rfl
  · rfl
  · exact absurd ‹_› (hidle _)
  · rfl
  · rfl
  · rfl

/-- A user that is in no attempt drops nothing. -/
theorem isDropped_eq_false (hidle : ∀ attempt, u.activity ≠ .attempting attempt) :
    u.isDropped s m answer = false := by
  unfold isDropped
  split
  · exact absurd ‹_› (hidle _)
  · exact absurd ‹_› (hidle _)
  · rfl

/-- What a user in an attempt drops when its attempt goes on. -/
theorem isDropped_of_attempting {attempt attempt' : Attempt} {events : List Event}
    (hactivity : u.activity = .attempting attempt)
    (hmove : Attempt.Move unix attempt answer attempt' events)
    (hresume : attempt.resume s m answer = (attempt', events)) :
    u.isDropped s m answer = (decide (0 < u.signals) && attempt'.isWatching) := by
  have hanswer : answer ≠ .interrupted := hmove.ne_interrupted
  unfold isDropped
  rw [hactivity]
  cases answer with
  | interrupted => exact absurd rfl hanswer
  | _ => simp only [hresume]

/-- What is entered outside of an attempt balances. -/
theorem balances_of_idle (hidle : ∀ attempt, u.activity ≠ .attempting attempt)
    (hnext : u'.isWatching = false) (refused : Bool) :
    Entry.Balances ⟨[], none, refused⟩ (u.isGranted s answer) u.isWatching
      (u.isDropped s m answer) u'.isWatching := by
  have hwatching : u.isWatching = false := by
    unfold isWatching
    split
    · exact absurd ‹_› (hidle _)
    · rfl
  rw [isGranted_eq_false hidle, hwatching, isDropped_eq_false hidle, hnext]
  exact ⟨⟨rfl, rfl, rfl⟩, rfl⟩

/-- What is entered within an attempt balances. -/
theorem balances_of_attempting {attempt attempt' : Attempt} {events : List Event}
    (hactivity : u.activity = .attempting attempt)
    (hmove : Attempt.Move unix attempt answer attempt' events) :
    (attempt'.entry events).Balances (u.isGranted s answer) u.isWatching false
      attempt'.isWatching := by
  have hgranted : u.isGranted s answer = (attempt.wait s).grantsAt s.allocationsPath answer := by
    simp only [isGranted, wait, hactivity]
  have hwatching : u.isWatching = attempt.isWatching := by simp only [isWatching, hactivity]
  rw [hgranted, hwatching]
  exact hmove.balances

/-- A user that has finished watches nothing. -/
theorem Begun.isWatching_eq_false {wall : Duration} (hbegun : Begun s wall u u') :
    u'.isWatching = false := by
  cases hbegun <;> rfl

/-- Every move of a user balances. -/
theorem Move.balances (hmove : Move s m unix u answer entry u') :
    entry.Balances (u.isGranted s answer) u.isWatching (u.isDropped s m answer)
      u'.isWatching := by
  cases hmove with
  | refused hactivity =>
    exact balances_of_idle (fun _ h => by rw [hactivity] at h; cases h) rfl true
  | started harrives _ hbegun =>
    refine balances_of_idle (fun _ h => ?_) hbegun.isWatching_eq_false false
    cases harrives with
    | starting hactivity | connected hactivity => rw [hactivity] at h; cases h
  | unstarted harrives =>
    refine balances_of_idle (fun _ h => ?_) rfl false
    cases harrives with
    | starting hactivity | connected hactivity => rw [hactivity] at h; cases h
  | resumed hactivity hbegun =>
    exact balances_of_idle (fun _ h => by rw [hactivity] at h; cases h)
      hbegun.isWatching_eq_false false
  | stopped _ hcause =>
    rcases hcause with ⟨rfl, _⟩ | hactivity
    · have hgranted : u.isGranted s .interrupted = false := by
        unfold isGranted Wait.grantsAt
        split
        · cases ‹_›
        · rfl
      have hdropped : u.isDropped s m .interrupted = u.isWatching := by
        unfold isDropped isWatching
        cases u.activity <;> rfl
      rw [hgranted, hdropped]
      exact ⟨⟨rfl, rfl, rfl⟩, (Nat.zero_add _).trans (Nat.zero_add _).symm⟩
    · exact balances_of_idle (fun _ h => by rw [hactivity] at h; cases h) rfl false
  | @attempting _ _ attempt' events hactivity hattempt hgoing hsignals hresume =>
    have hentry : attempt'.entry events = ⟨events, none, false⟩ := by rw [Attempt.entry, hgoing]
    rw [isDropped_of_attempting hactivity hattempt hresume, hsignals, ← hentry]
    exact balances_of_attempting hactivity hattempt
  | @dropped _ _ attempt' events hactivity hattempt hgoing hsignals hresume =>
    have hentry : attempt'.entry events = ⟨events, none, false⟩ := by rw [Attempt.entry, hgoing]
    rw [isDropped_of_attempting hactivity hattempt hresume, decide_eq_true hsignals, ← hentry]
    exact (balances_of_attempting hactivity hattempt).drop
  | @ended _ _ result events _ hactivity hattempt hreflected hresume =>
    have hnext : u'.isWatching = false := by cases hreflected <;> rfl
    rw [isDropped_of_attempting hactivity hattempt hresume, hnext, Bool.and_eq_false_imp.mpr]
    · exact balances_of_attempting hactivity hattempt
    · exact fun _ => rfl

/-- A user that drops an allocation is over. -/
theorem Move.isOver_of_isDropped (hmove : Move s m unix u answer entry u')
    (hdropped : u.isDropped s m answer = true) : u'.isOver = true := by
  cases hmove with
  | refused => rfl
  | started harrives =>
    have hidle : ∀ attempt, u.activity ≠ .attempting attempt := fun _ h => by
      cases harrives with
      | starting hactivity | connected hactivity => rw [hactivity] at h; cases h
    rw [isDropped_eq_false hidle] at hdropped
    cases hdropped
  | unstarted => rfl
  | resumed hactivity =>
    have hidle : ∀ attempt, u.activity ≠ .attempting attempt := fun _ h => by
      rw [hactivity] at h
      cases h
    rw [isDropped_eq_false hidle] at hdropped
    cases hdropped
  | stopped => rfl
  | attempting hactivity hattempt _ hsignals hresume =>
    rw [isDropped_of_attempting hactivity hattempt hresume, hsignals] at hdropped
    cases hdropped
  | dropped => rfl
  | ended hactivity hattempt _ hresume =>
    rw [isDropped_of_attempting hactivity hattempt hresume] at hdropped
    cases (Bool.and_eq_true_iff.mp hdropped).2

/-- A user that has done nothing yet watches nothing. -/
theorem isWatching_create (s : Settings) (id : Nat) : (create s id).isWatching = false := by
  unfold create
  cases s.metrics.collector <;> rfl

/-- A user that is over watches nothing. -/
theorem isWatching_of_isOver (hover : u.isOver = true) : u.isWatching = false := by
  unfold isOver at hover
  unfold isWatching
  split at hover
  · simp only [*]
  · simp only [*]
  · simp only [*]
  · simp only [*]
  · cases hover

end User

end FleetTrial
