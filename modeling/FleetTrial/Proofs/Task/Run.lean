import FleetTrial.Task.Wait

/-!
# Runs

A system goes from state to state as cues come to it, of which each state allows some. A run of a
system is told by its scenes: each is a state with the cue that came to it there. Nothing is said
about which of the allowed cues comes next, so what holds of every run holds of every order in which
the tasks of a system take turns, and of every answer that they get.
-/

namespace FleetTrial

/-- What may come to a task that waits. A request gets any snapshot or error for an answer. -/
inductive Wait.Admits : Wait → Answer → Prop
  | turn : Admits .turn .go
  | connected (address : String) : Admits (.connection address) .connected
  | refused (address : String) (e : TrialError) : Admits (.connection address) (.refused e)
  | replied (request : Request) (result : Except TrialError Snapshot) :
    Admits (.reply request) (.reply result)
  | rested (span : Duration) : Admits (.pause span) .go

/-- No wait is answered by an interruption or a crash. -/
theorem Wait.Admits.ordinary {w : Wait} {answer : Answer} (hadmits : w.Admits answer) :
    answer ≠ .interrupted ∧ ∀ crash, answer ≠ .crashed crash := by
  cases hadmits <;> exact ⟨nofun, nofun⟩

/-- A system whose states are of type `σ` and whose cues are of type `κ`. -/
structure System (σ κ : Type) where
  /-- Whether a cue may come to a state. -/
  Allows : σ → κ → Prop
  /-- Goes on to the next state as a cue says. -/
  perform : κ → σ → σ

/-- One scene of a run: a state, and the cue that comes to it. -/
structure Scene (σ κ : Type) where
  before : σ
  cue : κ

/-- The runs of a system from a state on, each with its scenes in order and the state it ends in. -/
inductive System.Run {σ κ : Type} (S : System σ κ) (start : σ) : List (Scene σ κ) → σ → Prop
  | nil : Run S start [] start
  | snoc {scenes : List (Scene σ κ)} {a : σ} {c : κ} (hrun : Run S start scenes a)
    (hallows : S.Allows a c) : Run S start (scenes ++ [⟨a, c⟩]) (S.perform c a)

namespace System

variable {σ κ : Type}

/-- The scenes of the run that some cues lead through. -/
def scenes (S : System σ κ) : σ → List κ → List (Scene σ κ)
  | _, [] => []
  | a, c :: cues => ⟨a, c⟩ :: S.scenes (S.perform c a) cues

/-- The state that some cues lead to. -/
def outcome (S : System σ κ) : σ → List κ → σ
  | a, [] => a
  | a, c :: cues => S.outcome (S.perform c a) cues

/-- The cues of a run that some cues lead through are these. -/
theorem map_cue_scenes (S : System σ κ) (a : σ) (cues : List κ) :
    (S.scenes a cues).map (·.cue) = cues := by
  induction cues generalizing a with
  | nil => rfl
  | cons c cues ih => exact congrArg (c :: ·) (ih (S.perform c a))

/-- What holds of some cues holds of the cues of the scenes that they lead through. -/
theorem forall_cue_scenes (S : System σ κ) (a : σ) {cues : List κ} {P : κ → Prop}
    (hcues : ∀ c ∈ cues, P c) : ∀ scene ∈ S.scenes a cues, P scene.cue := by
  intro scene hscene
  apply hcues
  rw [← S.map_cue_scenes a cues]
  exact List.mem_map_of_mem hscene

/-- Whether each of some cues is allowed where it comes. -/
def AllowsAll (S : System σ κ) : σ → List κ → Prop
  | _, [] => True
  | a, c :: cues => S.Allows a c ∧ S.AllowsAll (S.perform c a) cues

end System

namespace System.Run

variable {σ κ : Type} {S : System σ κ} {start a b : σ} {scenes : List (Scene σ κ)}

/-- What holds at the start, and is kept by every allowed cue, holds all along a run. -/
theorem keeps {P : σ → Prop} (hrun : S.Run start scenes a) (hstart : P start)
    (hstep : ∀ b c, P b → S.Allows b c → P (S.perform c b)) : P a := by
  induction hrun with
  | nil => exact hstart
  | snoc _ hallows ih => exact hstep _ _ ih hallows

/-- A run goes on where another one has ended. -/
theorem append {scenes' : List (Scene σ κ)} (hrun : S.Run start scenes a)
    (hrun' : S.Run a scenes' b) : S.Run start (scenes ++ scenes') b := by
  induction hrun' with
  | nil => rwa [List.append_nil]
  | snoc _ hallows ih =>
    rw [← List.append_assoc]
    exact .snoc ih hallows

/-- Cues that are allowed one after another lead through a run. -/
theorem of_allowsAll {cues : List κ} (hallows : S.AllowsAll a cues) :
    S.Run a (S.scenes a cues) (S.outcome a cues) := by
  induction cues generalizing a with
  | nil => exact .nil
  | cons c cues ih =>
    obtain ⟨hfirst, hrest⟩ := hallows
    exact (Run.snoc .nil hfirst).append (ih hrest)

/-- A run comes to each of its scenes by a run of its own, and goes on from there by another. -/
theorem split {scenes' : List (Scene σ κ)} {c : κ}
    (hrun : S.Run start (scenes ++ ⟨a, c⟩ :: scenes') b) :
    S.Run start scenes a ∧ S.Allows a c ∧ S.Run (S.perform c a) scenes' b := by
  generalize hwhole : scenes ++ ⟨a, c⟩ :: scenes' = whole at hrun
  induction hrun generalizing scenes' with
  | nil => exact absurd hwhole (by simp)
  | @snoc whole d e hrun hallows ih =>
    rcases List.eq_nil_or_concat scenes' with rfl | ⟨rest, last, rfl⟩
    · obtain ⟨rfl, hlast⟩ := List.append_inj' hwhole rfl
      cases hlast
      exact ⟨hrun, hallows, .nil⟩
    · rw [List.concat_eq_append, ← List.cons_append, ← List.append_assoc] at hwhole
      obtain ⟨hfront, hlast⟩ := List.append_inj' hwhole rfl
      cases hlast
      obtain ⟨hfirst, hallowed, hrest⟩ := ih hfront
      rw [List.concat_eq_append]
      exact ⟨hfirst, hallowed, .snoc hrest hallows⟩

end System.Run

end FleetTrial
