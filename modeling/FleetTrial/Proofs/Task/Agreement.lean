import FleetTrial.Measurement.Forwarder
import FleetTrial.Task.Wait

/-!
# Tasks that agree

A task on its own meets a world: whoever answers its requests, whoever accepts its connections, and
the clocks. Nothing is known of a world but what it does next. What comes next to a task is prompted
from outside, in any order and as often as may be: it gets what it waits for, a signal comes, or it
notices a signal that has come.

Two tasks agree if corresponding states of them wait alike, and go on to states that correspond
again. Then they run alike: they ask the world the same in the same order, and leave it in the same
state whatever it keeps of what it was asked.
-/

namespace FleetTrial

/-- A task on its own, with states of type `σ`. -/
structure Solo (σ : Type) where
  wait : σ → Wait
  /-- Whether a signal that has come may end what the task is doing. -/
  isInterrupted : σ → Bool
  /-- Lets the task go on. -/
  resume : Moment → Answer → σ → σ
  /-- Sends the task a signal. -/
  signal : σ → σ

/-- All that a task meets, in a state of type `π`. -/
structure World (π : Type) where
  /-- Takes a request: the answer to it, unless there is never going to be one. -/
  call : Request → π → π × Option Answer
  /-- Whether there is a collector at an address that accepts connections. -/
  accepts : String → Bool
  /-- Lets a pause pass. -/
  rest : Duration → π → π
  /-- What a task finds around it. To look at a clock may move it. -/
  look : π → π × Moment

/-- What may come next to a task. -/
inductive Prompt
  /-- The task gets what it waits for. -/
  | turn
  /-- The task notices a signal that has come. -/
  | interruption
  /-- A signal comes. -/
  | signal

/-- How far a task has come in its world. -/
structure Place (σ π : Type) where
  state : σ
  world : π
  /-- The requests that were made, in order. -/
  requests : List Request
  /-- Whether the task's request is never going to be answered. -/
  hangs : Bool

/-- A task that has not made a request yet. -/
def Place.start {σ π : Type} (state : σ) (world : π) : Place σ π := ⟨state, world, [], false⟩

namespace Solo

variable {σ σ' π : Type}

/-- Lets a task go on with what it finds around it. -/
def goOn (t : Solo σ) (w : World π) (answer : Answer) (x : Place σ π) : Place σ π :=
  let (world, m) := w.look x.world
  { x with state := t.resume m answer x.state, world, hangs := false }

/-- Gives a task what it waits for. -/
def serve (t : Solo σ) (w : World π) (x : Place σ π) : Place σ π :=
  match t.wait x.state with
  | .turn => t.goOn w .go x
  | .connection address =>
    if w.accepts address then t.goOn w .connected x
    else t.goOn w (.refused (Forwarder.refusal address)) x
  | .reply request =>
    let asked := { x with requests := x.requests ++ [request] }
    match w.call request x.world with
    | (world, none) => { asked with world, hangs := true }
    | (world, some answer) => t.goOn w answer { asked with world }
  | .pause span => t.goOn w .go { x with world := w.rest span x.world }
  | .others | .over => x

/-- Follows a prompt. One that the task cannot follow leaves everything as it is. -/
def follow (t : Solo σ) (w : World π) (x : Place σ π) : Prompt → Place σ π
  | .turn => if x.hangs then x else t.serve w x
  | .interruption => if t.isInterrupted x.state then t.goOn w .interrupted x else x
  | .signal => { x with state := t.signal x.state }

/-- Follows prompts in order. -/
def run (t : Solo σ) (w : World π) (prompts : List Prompt) (x : Place σ π) : Place σ π :=
  prompts.foldl (t.follow w) x

end Solo

variable {σ σ' π : Type}

/-- Waits that end alike: the same ones, or one for a connection that is going to be opened and one
for a turn. -/
inductive Alike (w : World π) : Wait → Wait → Prop
  | same (a : Wait) : Alike w a a
  | opened {address : String} (haccepts : w.accepts address = true) :
    Alike w (.connection address) .turn

/-- Two tasks that go on alike from states that correspond by `R`. -/
structure Agreement (t : Solo σ) (t' : Solo σ') (w : World π) (R : σ → σ' → Prop) : Prop where
  wait : ∀ {a b}, R a b → Alike w (t.wait a) (t'.wait b)
  isInterrupted : ∀ {a b}, R a b → t.isInterrupted a = t'.isInterrupted b
  signalled : ∀ {a b}, R a b → R (t.signal a) (t'.signal b)
  interrupted : ∀ {a b}, R a b → t.isInterrupted a = true → ∀ m,
    R (t.resume m .interrupted a) (t'.resume m .interrupted b)
  resumed : ∀ {a b}, R a b → t.wait a = t'.wait b → ∀ m answer,
    R (t.resume m answer a) (t'.resume m answer b)
  connected : ∀ {a b}, R a b → ∀ {address}, t.wait a = .connection address →
    t'.wait b = .turn → ∀ m, R (t.resume m .connected a) (t'.resume m .go b)

/-- Two places that agree in everything but their states, which correspond. -/
structure Place.Agree (R : σ → σ' → Prop) (x : Place σ π) (y : Place σ' π) : Prop where
  state : R x.state y.state
  world : x.world = y.world
  requests : x.requests = y.requests
  hangs : x.hangs = y.hangs

namespace Agreement

open Place (Agree)

variable {t : Solo σ} {t' : Solo σ'} {w : World π} {R : σ → σ' → Prop} {x : Place σ π}
  {y : Place σ' π}

/-- Tasks that go on alike come to places that agree. -/
theorem agree_goOn (hagree : Agree R x y) {answer answer' : Answer}
    (hnext : ∀ m, R (t.resume m answer x.state) (t'.resume m answer' y.state)) :
    Agree R (t.goOn w answer x) (t'.goOn w answer' y) := by
  obtain ⟨_, hworld, hrequests, _⟩ := hagree
  simp only [Solo.goOn, hworld]
  exact ⟨hnext _, rfl, hrequests, rfl⟩

variable (hagreement : Agreement t t' w R)

include hagreement

/-- Tasks that wait for the same and get it come to places that agree. -/
theorem agree_serve_of_same (hagree : Agree R x y) (hsame : t.wait x.state = t'.wait y.state) :
    Agree R (t.serve w x) (t'.serve w y) := by
  have hresumed (m : Moment) (answer : Answer) :
      R (t.resume m answer x.state) (t'.resume m answer y.state) :=
    hagreement.resumed hagree.state hsame m answer
  have hasked (request : Request) (world : π) :
      Agree R { x with world, requests := x.requests ++ [request] }
        { y with world, requests := y.requests ++ [request] } :=
    ⟨hagree.state, rfl, congrArg (· ++ [request]) hagree.requests, hagree.hangs⟩
  unfold Solo.serve
  rw [← hsame, hagree.world]
  split
  · exact agree_goOn hagree fun m => hresumed m .go
  · split
    · exact agree_goOn hagree fun m => hresumed m .connected
    · exact agree_goOn hagree fun m => hresumed m _
  · rename_i request _
    rcases w.call request y.world with ⟨world, _ | answer⟩
    · exact ⟨hagree.state, rfl, (hasked request world).requests, rfl⟩
    · exact agree_goOn (hasked request world) fun m => hresumed m answer
  · rename_i span _
    have hrested : Agree R { x with world := w.rest span y.world }
        { y with world := w.rest span y.world } :=
      ⟨hagree.state, rfl, hagree.requests, hagree.hangs⟩
    exact agree_goOn hrested fun m => hresumed m .go
  · exact hagree
  · exact hagree

/-- Tasks that get what they wait for come to places that agree. -/
theorem agree_serve (hagree : Agree R x y) : Agree R (t.serve w x) (t'.serve w y) := by
  have halike := hagreement.wait hagree.state
  generalize ha : t.wait x.state = a, hb : t'.wait y.state = b at halike
  cases halike with
  | same => exact hagreement.agree_serve_of_same hagree (ha.trans hb.symm)
  | opened haccepts =>
    unfold Solo.serve
    simp only [ha, hb, haccepts, if_true]
    exact agree_goOn hagree (hagreement.connected hagree.state ha hb)

/-- A prompt leaves tasks in places that agree. -/
theorem agree_follow (hagree : Agree R x y) (prompt : Prompt) :
    Agree R (t.follow w x prompt) (t'.follow w y prompt) := by
  cases prompt with
  | turn =>
    simp only [Solo.follow, hagree.hangs]
    split
    · exact hagree
    · exact hagreement.agree_serve hagree
  | interruption =>
    simp only [Solo.follow, ← hagreement.isInterrupted hagree.state]
    split
    · exact agree_goOn hagree (hagreement.interrupted hagree.state ‹_›)
    · exact hagree
  | signal =>
    exact ⟨hagreement.signalled hagree.state, hagree.world, hagree.requests, hagree.hangs⟩

/-- **Tasks that agree run alike,** whatever they are prompted to. -/
theorem agree_run (prompts : List Prompt) (hagree : Agree R x y) :
    Agree R (t.run w prompts x) (t'.run w prompts y) := by
  induction prompts generalizing x y with
  | nil => exact hagree
  | cons prompt prompts ih => exact ih (hagreement.agree_follow hagree prompt)

end Agreement

end FleetTrial
