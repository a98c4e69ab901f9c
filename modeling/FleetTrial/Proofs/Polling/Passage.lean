import FleetTrial.Task.Wait

/-!
# Pollers on their course

A poller fetches one snapshot after another. What it meets on its way is a course: a reply to each
of its fetches, or none at all, and the instants at which it goes on. A passage is how far a poller
has come; it leaves out nothing that the poller asks for and adds nothing of its own.
-/

namespace FleetTrial

/-- A task that fetches snapshots one after another until it is over. -/
structure Poller (α : Type) where
  /-- What the task waits for. -/
  wait : α → Wait
  /-- Goes on at an instant with the answer to a wait. -/
  resume : Instant → Answer → α → α

/-- What a poller meets. -/
structure Course where
  /-- The replies to its fetches in order; none to a fetch that is never answered. -/
  reply : Nat → Option (Except TrialError Snapshot)
  /-- The instant at which it goes on when so many fetches have been answered. -/
  clock : Nat → Instant

/-- How far a poller has come on its course. -/
structure Passage (α : Type) where
  state : α
  /-- The fetches that were answered, in order. -/
  fetched : List Request
  pauses : Nat

namespace Passage

variable {α : Type} {p : Poller α} {c : Course} {x : Passage α}

/-- Gives a poller the next answer of its course. A fetch that is never answered leaves everything
as it is, and so does a poller that is over. -/
def step (p : Poller α) (c : Course) (x : Passage α) : Passage α :=
  match p.wait x.state with
  | .pause _ =>
    ⟨p.resume (c.clock x.fetched.length) .go x.state, x.fetched, x.pauses + 1⟩
  | .reply request =>
    match c.reply x.fetched.length with
    | none => x
    | some result =>
      ⟨p.resume (c.clock (x.fetched.length + 1)) (.reply result) x.state, x.fetched ++ [request],
        x.pauses⟩
  | _ => x

/-- How far a poller has come after so many steps. -/
def after (p : Poller α) (c : Course) (start : α) : Nat → Passage α
  | 0 => ⟨start, [], 0⟩
  | n + 1 => (after p c start n).step p c

/-- A pause ends, and the poller goes on at the same instant. -/
theorem step_of_pause {span : Duration} (hwait : p.wait x.state = .pause span) :
    x.step p c =
      ⟨p.resume (c.clock x.fetched.length) .go x.state, x.fetched, x.pauses + 1⟩ := by
  simp only [step, hwait]

/-- A fetch is answered, and the poller goes on at the next instant of its course. -/
theorem step_of_reply {request : Request} {result : Except TrialError Snapshot}
    (hwait : p.wait x.state = .reply request) (hreply : c.reply x.fetched.length = some result) :
    x.step p c =
      ⟨p.resume (c.clock (x.fetched.length + 1)) (.reply result) x.state,
        x.fetched ++ [request], x.pauses⟩ := by
  simp only [step, hwait, hreply]

/-- A poller whose fetch is never answered stands still. -/
theorem step_of_unanswered {request : Request} (hwait : p.wait x.state = .reply request)
    (hreply : c.reply x.fetched.length = none) : x.step p c = x := by
  simp only [step, hwait, hreply]

/-- A poller that is over stands still. -/
theorem step_of_over (hwait : p.wait x.state = .over) : x.step p c = x := by
  simp only [step, hwait]

end Passage

end FleetTrial
