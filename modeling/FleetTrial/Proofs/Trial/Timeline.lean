import FleetTrial.Proofs.Trial.TrialMoves

/-!
# Trials on a time line

On a time line nothing takes any time but pauses: requests are answered and connections opened at
the instant at which they are asked for. As long as a task has something to do, time stands still;
then it passes to the end of the next pause. All that happens on a time line may happen in a trial
at work, so what holds of every run of a trial holds here as well.
-/

namespace FleetTrial

/-- How long a wait is bound to last. -/
def Wait.span : Wait → Duration
  | .pause span => span
  | _ => .zero

/-- Whether an allocation has ended at the instant of a snapshot. -/
def Snapshot.IsFinal (s : Snapshot) : Prop :=
  s.state? = some "Allocated" ∨ s.state? = some "UnAllocated"

/-- A trial on a time line. -/
structure TimedTrial where
  trial : Trial
  /-- How many nanoseconds the program has run. -/
  time : Nat
  /-- The time at which the latest pause of each task ends. -/
  due : Role → Nat

/-- What may come to a trial on a time line. -/
inductive TimedCue
  /-- A task goes on. -/
  | act (role : Role) (m : Moment) (answer : Answer)
  /-- Time passes. -/
  | pass (time : Nat)

namespace TimedTrial

variable {s : Settings} {c : TimedTrial} {role other : Role} {t : Trial} {m : Moment}
  {answer : Answer} {history : List (Scene TimedTrial TimedCue)}

/-- A trial at the beginning of its time line. -/
def create (s : Settings) : TimedTrial := ⟨.create s, 0, fun _ => 0⟩

/-- Whether a task pauses. -/
def Pauses (c : TimedTrial) (role : Role) : Prop := ∃ span, c.trial.wait role = .pause span

/-- Whether there is what a task waits for. -/
def IsReady (c : TimedTrial) (role : Role) : Prop :=
  match c.trial.wait role with
  | .turn | .connection _ | .reply _ => True
  | .pause _ => c.due role ≤ c.time
  | .others | .over => False

/-- Whether a signal may end what a task is doing. -/
def IsCalled (c : TimedTrial) : Role → Prop
  | .coordinator => False
  | .user id => ∃ u, c.trial.users[id]? = some u ∧ u.isInterrupted = true

/-- Whether an answer leaves nothing to watch: the snapshot of an allocation that a user gets for
its request shows how it has ended. -/
def IsPrompt (c : TimedTrial) (answer : Answer) : Role → Prop
  | .coordinator => True
  | .user id => ∀ path body snapshot, c.trial.wait (.user id) = .reply (.create path body) →
    answer = .reply (.ok snapshot) → snapshot.IsFinal

/-- The time line behind a task that has gone on. -/
def behind (c : TimedTrial) (role : Role) (t : Trial) : TimedTrial where
  trial := t
  time := c.time
  due other := if other = role then c.time + (t.wait role).span.nanos else c.due other

/-- A trial on a time line whose control plane is prompt. -/
def timeline : System TimedTrial TimedCue where
  Allows c cue :=
    match cue with
    | .act role m answer => c.trial.Admits role answer ∧ m.IsReadable ∧ m.wall = ⟨c.time⟩ ∧
      (answer = .interrupted ∨ c.IsReady role) ∧ c.IsPrompt answer role
    | .pass time => (∀ role, ¬c.IsReady role ∧ ¬c.IsCalled role) ∧
      (∃ role, c.Pauses role ∧ c.due role = time) ∧ ∀ role, c.Pauses role → time ≤ c.due role
  perform cue c :=
    match cue with
    | .act role m answer => c.behind role (c.trial.resume m answer role)
    | .pass time => { c with time }

@[simp] theorem trial_behind : (c.behind role t).trial = t := rfl

@[simp] theorem time_behind : (c.behind role t).time = c.time := rfl

theorem due_behind_self : (c.behind role t).due role = c.time + (t.wait role).span.nanos :=
  if_pos rfl

theorem due_behind_of_ne (hne : other ≠ role) : (c.behind role t).due other = c.due other :=
  if_neg hne

/-- A task whose pause is not over is not ready. -/
theorem Pauses.isReady_iff (hpauses : c.Pauses role) : c.IsReady role ↔ c.due role ≤ c.time := by
  obtain ⟨span, hwait⟩ := hpauses
  simp only [IsReady, hwait]

/-- The scenes of a time line in which tasks go on. -/
def acts (history : List (Scene TimedTrial TimedCue)) : List (Scene Trial TrialCue) :=
  history.filterMap fun scene =>
    match scene.cue with
    | .act role m answer => some ⟨scene.before.trial, .answer role m answer⟩
    | .pass _ => none

/-- A task that goes on adds an act. -/
theorem acts_concat_act : acts (history ++ [⟨c, .act role m answer⟩]) =
    acts history ++ [⟨c.trial, .answer role m answer⟩] := List.filterMap_append

/-- Time that passes adds no act. -/
theorem acts_concat_pass {time : Nat} : acts (history ++ [⟨c, .pass time⟩]) = acts history := by
  simp only [acts, List.filterMap_append, List.filterMap_cons, List.filterMap_nil,
    List.append_nil]

/-- The acts on a time line make a run of a trial at work. -/
theorem run_acts {start : TimedTrial} (hrun : timeline.Run start history c) :
    Trial.system.Run start.trial (acts history) c.trial := by
  induction hrun with
  | nil => exact .nil
  | @snoc _ c cue _ hallows ih =>
    cases cue with
    | act role m answer =>
      obtain ⟨hadmits, hreadable, _⟩ := hallows
      have hallows' : Trial.system.Allows c.trial (.answer role m answer) := ⟨hreadable, hadmits⟩
      rw [acts_concat_act]
      exact .snoc ih hallows'
    | pass time =>
      rw [acts_concat_pass]
      exact ih

/-- On a time line a trial keeps its settings. -/
theorem settings_of_timed_run (hrun : timeline.Run (create s) history c) : c.trial.settings = s :=
  Trial.settings_of_run (run_acts hrun)

/-- The moves of a trial on a time line: the coordinator goes on, a user makes one of its moves, or
time passes. -/
inductive Move (s : Settings) (c : TimedTrial) : TimedCue → TimedTrial → Prop
  | coordinator {m : Moment} {answer : Answer} (hadmits : c.trial.coordinatorWait.Admits answer)
    (hwall : m.wall = ⟨c.time⟩) (hready : c.IsReady .coordinator) :
    Move s c (.act .coordinator m answer)
      (c.behind .coordinator (c.trial.resumeCoordinator m answer))
  | user {m : Moment} {answer : Answer} {unix : Int × Int} {id : Nat} {u u' : User}
    (hu : c.trial.users[id]? = some u) (hadmits : u.Admits s answer) (hunix : m.Shows unix)
    (hwall : m.wall = ⟨c.time⟩) (hready : answer = .interrupted ∨ c.IsReady (.user id))
    (hprompt : c.IsPrompt answer (.user id))
    (hmove : User.Move s m unix u answer (u.entry s m answer) u') :
    Move s c (.act (.user id) m answer)
      (c.behind (.user id) (c.trial.withUser id (u.entry s m answer) u'))
  | pass {time : Nat} (hallows : timeline.Allows c (.pass time)) :
    Move s c (.pass time) { c with time }

/-- Whatever comes to a trial on its time line, it makes one of its moves. -/
theorem move_perform {cue : TimedCue} (hrun : timeline.Run (create s) history c)
    (hallows : timeline.Allows c cue) : Move s c cue (timeline.perform cue c) := by
  have hsettings := settings_of_timed_run hrun
  cases cue with
  | act role m answer =>
    obtain ⟨hadmits, ⟨unix, hunix⟩, hwall, hready, hprompt⟩ := hallows
    cases role with
    | coordinator =>
      have hanswer : answer ≠ .interrupted := (Wait.Admits.ordinary hadmits).1
      exact .coordinator hadmits hwall (hready.resolve_left hanswer)
    | user id =>
      obtain ⟨u, hu, hadmits⟩ := hadmits
      have hkept := (Trial.isOrderly_of_run (run_acts hrun) id u hu).2
      obtain ⟨u', heq, hmove⟩ := Trial.resumeUser_eq hu hkept hunix hadmits
      have hperform : timeline.perform (.act (.user id) m answer) c =
          c.behind (.user id) (c.trial.withUser id (u.entry c.trial.settings m answer) u') := by
        rw [← heq]
        rfl
      rw [hperform, hsettings]
      rw [hsettings] at hadmits hmove
      exact .user hu hadmits hunix hwall hready hprompt hmove
  | pass time => exact .pass hallows

end TimedTrial

end FleetTrial
