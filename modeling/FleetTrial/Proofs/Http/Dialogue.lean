import FleetTrial.Proofs.Http.Replies

/-!
# Dialogues over HTTP

A caller makes one request after another, and each reply decides whether there is another request.
A strict caller gives up on an error and asks again only behind a snapshot that leaves it undecided.
So a reply that is no success ends it with its status and its text, and a success that is no
snapshot ends it with the fault of its body. Neither is taken for a resource that is not there yet.
-/

namespace FleetTrial.Http

/-- A task that makes requests one after another until it is over. -/
structure Caller (α : Type) where
  /-- What the task waits for. -/
  wait : α → Wait
  /-- Goes on with the answer to a wait when so many requests have been answered. -/
  resume : Nat → Answer → α → α

/-- How far a caller has come. -/
structure Dialogue (α : Type) where
  state : α
  /-- The requests that were answered, in order. -/
  requests : List Request

/-- What a caller meets: the client that it asks through, and the replies to its requests in order,
none to a request that is never answered. -/
structure Exchange where
  client : Client
  reply : Nat → Option Reply

namespace Dialogue

variable {α : Type} {p : Caller α} {c : Exchange} {x : Dialogue α} {request : Request} {r : Reply}

/-- Gives a caller the next answer. A request that is never answered leaves everything as it is, and
so does a caller that is over. -/
def step (p : Caller α) (c : Exchange) (x : Dialogue α) : Dialogue α :=
  match p.wait x.state with
  | .pause _ => ⟨p.resume x.requests.length .go x.state, x.requests⟩
  | .reply request =>
    match c.reply x.requests.length with
    | none => x
    | some r =>
      ⟨p.resume (x.requests.length + 1) (.reply (c.client.ask request r.response)) x.state,
        x.requests ++ [request]⟩
  | _ => x

/-- How far a caller has come after so many steps. -/
def after (p : Caller α) (c : Exchange) (start : α) : Nat → Dialogue α
  | 0 => ⟨start, []⟩
  | n + 1 => (after p c start n).step p c

/-- A request is answered. -/
theorem step_of_reply (hwait : p.wait x.state = .reply request)
    (hreply : c.reply x.requests.length = some r) :
    x.step p c =
      ⟨p.resume (x.requests.length + 1) (.reply (c.client.ask request r.response)) x.state,
        x.requests ++ [request]⟩ := by
  simp only [step, hwait, hreply]

/-- A caller that is over stands still. -/
theorem step_of_over (hwait : p.wait x.state = .over) : x.step p c = x := by
  simp only [step, hwait]

/-- A caller that is over stays so. -/
theorem after_of_over {start : α} {n m : Nat} (hle : n ≤ m)
    (hwait : p.wait (after p c start n).state = .over) : after p c start m = after p c start n := by
  induction hle with
  | refl => rfl
  | step _ ih => rw [after, ih, step_of_over hwait]

end Dialogue

/-- Whether a caller gives up on an error and asks again only behind an undecided snapshot. What
holds of it when so many requests have been answered is `holds`; the snapshots that leave it
undecided in reply to the request with some number are `undecided`; `failed` is what an error makes
of it. -/
structure Caller.IsStrict {α : Type} (p : Caller α) (holds : Nat → α → Prop)
    (undecided : Nat → Snapshot → Prop) (failed : TrialError → α → α) : Prop where
  /-- It makes no deletions. -/
  asks : ∀ a request, p.wait a = .reply request → request.verb ≠ .delete
  /-- It is over with an error. -/
  fails : ∀ k a request e, p.wait a = .reply request →
    p.resume k (.reply (.error e)) a = failed e a ∧ p.wait (failed e a) = .over
  paused : ∀ k a span, holds k a → p.wait a = .pause span → holds k (p.resume k .go a)
  replied : ∀ k a request result, holds k a → p.wait a = .reply request →
    holds (k + 1) (p.resume (k + 1) (.reply result) a)
  /-- A snapshot that it goes on from has left it undecided. -/
  passes : ∀ k a request s, holds k a → p.wait a = .reply request →
    p.wait (p.resume (k + 1) (.reply (.ok s)) a) ≠ .over → undecided k s

/-- Whether reply `k` of an exchange is a success with a snapshot that leaves a caller undecided. -/
def Exchange.IsPending (c : Exchange) (undecided : Nat → Snapshot → Prop) (k : Nat) : Prop :=
  ∃ r s, c.reply k = some r ∧ r.IsSuccess ∧ Snapshot.parse r.content = .ok s ∧ undecided k s

/-- Whether a caller ends behind step `n` with a request and in a state in which it is over, so that
no request follows. -/
def EndsBehind {α : Type} (p : Caller α) (c : Exchange) (start : α) (n : Nat) (request : Request)
    (state : α) : Prop :=
  p.wait state = .over ∧ ∀ m > n, Dialogue.after p c start m =
    ⟨state, (Dialogue.after p c start n).requests ++ [request]⟩

/-- Whether a caller waits behind step `n` for a request that can be made and gets this reply. -/
structure IsAnswered {α : Type} (p : Caller α) (c : Exchange) (start : α) (n : Nat)
    (request : Request) (r : Reply) : Prop where
  waits : p.wait (Dialogue.after p c start n).state = .reply request
  made : c.client.CanMake request
  replied : c.reply (Dialogue.after p c start n).requests.length = some r

/-- Whether no reply that a caller gets is mistaken for another one. -/
structure Heeds {α : Type} (p : Caller α) (c : Exchange) (start : α)
    (undecided : Nat → Snapshot → Prop) (failed : TrialError → α → α) : Prop where
  /-- A reply that is no success ends the caller with its status and its text. -/
  refused : ∀ n request r, IsAnswered p c start n request r → ¬ r.IsSuccess →
    EndsBehind p c start n request
      (failed (.rejected r.status r.text) (Dialogue.after p c start n).state)
  /-- A success that is no snapshot ends it with the fault of its body. -/
  unreadable : ∀ n request r fault, IsAnswered p c start n request r → r.IsSuccess →
    Snapshot.parse r.content = .error fault →
    EndsBehind p c start n request (failed (.badJson fault) (Dialogue.after p c start n).state)
  /-- Every reply but the last one was a success with a snapshot that left it undecided. -/
  repeats : ∀ n k, k + 1 < (Dialogue.after p c start n).requests.length → c.IsPending undecided k

namespace Caller.IsStrict

variable {α : Type} {p : Caller α} {holds : Nat → α → Prop} {undecided : Nat → Snapshot → Prop}
  {failed : TrialError → α → α} {c : Exchange} {start : α} {n : Nat}

open Dialogue

/-- What holds of a caller at its start holds after any number of its steps. -/
theorem holds_after (hstrict : p.IsStrict holds undecided failed) (hstart : holds 0 start)
    (n : Nat) : holds (after p c start n).requests.length (after p c start n).state := by
  induction n with
  | zero => exact hstart
  | succ n ih =>
    rw [after, step]
    split
    · rename_i span hwait
      exact hstrict.paused _ _ span ih hwait
    · rename_i request hwait
      split
      · exact ih
      · rw [List.length_append, List.length_singleton]
        exact hstrict.replied _ _ request _ ih hwait
    · exact ih

/-- An error ends a caller, and no request follows. -/
theorem endsBehind_of_error (hstrict : p.IsStrict holds undecided failed) {request : Request}
    {r : Reply} {e : TrialError} (hanswered : IsAnswered p c start n request r)
    (hask : c.client.ask request r.response = .error e) :
    EndsBehind p c start n request (failed e (after p c start n).state) := by
  obtain ⟨hwait, _, hreply⟩ := hanswered
  obtain ⟨hfailed, hover⟩ :=
    hstrict.fails ((after p c start n).requests.length + 1) _ request e hwait
  have hnext : after p c start (n + 1) =
      ⟨failed e (after p c start n).state, (after p c start n).requests ++ [request]⟩ := by
    rw [after, step_of_reply hwait hreply, hask, hfailed]
  refine ⟨hover, fun m hm => ?_⟩
  rw [after_of_over hm (by rw [hnext]; exact hover), hnext]

/-- A reply that a caller goes on from was a success that left it undecided. -/
theorem isPending_of_ne_over (hstrict : p.IsStrict holds undecided failed) {k : Nat} {a : α}
    {request : Request} {r : Reply} (hholds : holds k a) (hwait : p.wait a = .reply request)
    (hreply : c.reply k = some r)
    (hopen : p.wait (p.resume (k + 1) (.reply (c.client.ask request r.response)) a) ≠ .over) :
    c.IsPending undecided k := by
  cases hask : c.client.ask request r.response with
  | error e =>
    obtain ⟨hfailed, hover⟩ := hstrict.fails (k + 1) a request e hwait
    rw [hask, hfailed] at hopen
    exact absurd hover hopen
  | ok s =>
    have hmade : c.client.CanMake request := Client.canMake_of_ask_eq_ok hask
    have htold := hmade.tellsApart (hstrict.asks a request hwait) r
    obtain ⟨hstatus, hbody⟩ := (htold.taken s).mp hask
    rw [hask] at hopen
    exact ⟨r, s, hreply, hstatus, hbody, hstrict.passes k a request s hholds hwait hopen⟩

/-- As long as a caller is not over, all replies have left it undecided, and when it is, all but the
last one have. -/
theorem isPending_after (hstrict : p.IsStrict holds undecided failed) (hstart : holds 0 start)
    (n : Nat) :
    (p.wait (after p c start n).state ≠ .over →
      ∀ k < (after p c start n).requests.length, c.IsPending undecided k) ∧
    ∀ k, k + 1 < (after p c start n).requests.length → c.IsPending undecided k := by
  induction n with
  | zero =>
    refine ⟨fun _ k hk => absurd hk (Nat.not_lt_zero k), fun k hk => absurd hk ?_⟩
    simp [after]
  | succ n ih =>
    obtain ⟨hopen, hearlier⟩ := ih
    have hholds := hstrict.holds_after (c := c) hstart n
    rw [after, step]
    split
    · rename_i span hwait
      have hbefore := hopen (by rw [hwait]; nofun)
      exact ⟨fun _ => hbefore, fun k hk => hbefore k (Nat.lt_of_succ_lt hk)⟩
    · rename_i request hwait
      split
      · exact ⟨hopen, hearlier⟩
      · rename_i r hreply
        have hbefore := hopen (by rw [hwait]; nofun)
        rw [List.length_append, List.length_singleton]
        refine ⟨fun hnext k hk => ?_, fun k hk => hbefore k (Nat.lt_of_succ_lt_succ hk)⟩
        obtain hlt | rfl := Nat.lt_succ_iff_lt_or_eq.mp hk
        · exact hbefore k hlt
        · exact hstrict.isPending_of_ne_over hholds hwait hreply hnext
    · exact ⟨hopen, hearlier⟩

/-- A strict caller heeds every reply. -/
theorem heeds (hstrict : p.IsStrict holds undecided failed) (hstart : holds 0 start) :
    Heeds p c start undecided failed where
  refused n request r hanswered hstatus := by
    have htold := hanswered.made.tellsApart (hstrict.asks _ request hanswered.waits) r
    exact hstrict.endsBehind_of_error hanswered (htold.refused hstatus)
  unreadable n request r fault hanswered hstatus hbody := by
    have htold := hanswered.made.tellsApart (hstrict.asks _ request hanswered.waits) r
    exact hstrict.endsBehind_of_error hanswered (htold.unreadable fault hstatus hbody)
  repeats n := (hstrict.isPending_after hstart n).2

end Caller.IsStrict

end FleetTrial.Http
