import FleetTrial.Proofs.Polling.Passage
import Mathlib.Algebra.Order.Floor.Div

/-!
# Progress of pollers

A brisk poller never pauses twice without a fetch in between. If every fetch is answered it
makes any number of them, unless it is over before. A poller that fetches only as long as it has
time left makes no more fetches than fit into that time, for each of them uses some of it up.
-/

namespace FleetTrial

/-- Whether a poller waits for nothing but answers and pauses, and goes from a pause on to a fetch
or to its end. -/
structure Poller.IsBrisk {α : Type} (p : Poller α) : Prop where
  waits : ∀ a, p.wait a = .over ∨ (∃ request, p.wait a = .reply request) ∨
    ∃ span, p.wait a = .pause span
  paused : ∀ a span now, p.wait a = .pause span →
    p.wait (p.resume now .go a) = .over ∨ ∃ request, p.wait (p.resume now .go a) = .reply request

namespace Course

/-- Whether every fetch is answered. -/
def IsAnswered (c : Course) : Prop := ∀ k, ∃ result, c.reply k = some result

/-- A course on which every fetch brings a snapshot is answered. -/
theorem isAnswered_of_snapshots {c : Course} {P : Snapshot → Prop}
    (hreplies : ∀ k, ∃ s, c.reply k = some (.ok s) ∧ P s) : c.IsAnswered := by
  intro k
  obtain ⟨s, hreply, _⟩ := hreplies k
  exact ⟨.ok s, hreply⟩

/-- Whether each fetch takes at least so many nanoseconds. -/
def AdvancesBy (c : Course) (step : Nat) : Prop :=
  ∀ k, (c.clock k).nanos + step ≤ (c.clock (k + 1)).nanos

/-- A clock that advances with each fetch does not fall behind where it was before. -/
theorem AdvancesBy.clock_le {c : Course} {step j k : Nat} (hadvances : c.AdvancesBy step)
    (hle : j ≤ k) : (c.clock j).nanos ≤ (c.clock k).nanos := by
  induction k, hle using Nat.le_induction with
  | base => exact Nat.le_refl _
  | succ k _ ih =>
    have hnext := hadvances k
    omega

end Course

namespace Passage

variable {α : Type} {p : Poller α} {c : Course} {start : α}

/-- A step leaves the fetches as they are, or a fetch that the poller waits for is answered. -/
theorem fetched_step (p : Poller α) (c : Course) (x : Passage α) :
    (x.step p c).fetched = x.fetched ∨
      ∃ request, p.wait x.state = .reply request ∧
        (x.step p c).fetched = x.fetched ++ [request] := by
  unfold step
  split
  · exact .inl rfl
  · rename_i request hwait
    split
    · exact .inl rfl
    · exact .inr ⟨request, hwait, rfl⟩
  · exact .inl rfl

/-- Further steps leave the fetches in place that were answered before. -/
theorem fetched_isPrefix (p : Poller α) (c : Course) (start : α) {m n : Nat} (hle : m ≤ n) :
    (after p c start m).fetched <+: (after p c start n).fetched := by
  induction n, hle using Nat.le_induction with
  | base => exact List.prefix_rfl
  | succ n _ ih =>
    rcases fetched_step p c (after p c start n) with hsame | ⟨request, _, hmore⟩
    · rw [after, hsame]
      exact ih
    · rw [after, hmore]
      exact ih.trans (List.prefix_append _ _)

/-- A brisk poller comes to a fetch or to its end without a further answer. -/
theorem exists_fetch_or_over (hbrisk : p.IsBrisk) (c : Course) (start : α) (n : Nat) :
    ∃ m, (after p c start m).fetched.length = (after p c start n).fetched.length ∧
      (p.wait (after p c start m).state = .over ∨
        ∃ request, p.wait (after p c start m).state = .reply request) := by
  rcases hbrisk.waits (after p c start n).state with hover | hfetch | ⟨span, hpause⟩
  · exact ⟨n, rfl, .inl hover⟩
  · exact ⟨n, rfl, .inr hfetch⟩
  · have hstep := step_of_pause (c := c) hpause
    refine ⟨n + 1, ?_, ?_⟩
    · rw [after, hstep]
    · rw [after, hstep]
      exact hbrisk.paused _ span _ hpause

/-- A brisk poller whose fetches are all answered makes any number of them, unless it is over
before. -/
theorem exists_fetches_or_over (hbrisk : p.IsBrisk) (hanswered : c.IsAnswered) (start : α)
    (k : Nat) :
    (∃ n request, p.wait (after p c start n).state = .reply request ∧
      (after p c start n).fetched.length = k) ∨
    ∃ n, p.wait (after p c start n).state = .over := by
  induction k with
  | zero =>
    obtain ⟨m, hlength, hover | ⟨request, hfetch⟩⟩ :=
      exists_fetch_or_over hbrisk c start 0
    · exact .inr ⟨m, hover⟩
    · exact .inl ⟨m, request, hfetch, hlength⟩
  | succ k ih =>
    rcases ih with ⟨n, request, hfetch, hlength⟩ | hover
    · obtain ⟨result, hreply⟩ := hanswered (after p c start n).fetched.length
      have hnext : (after p c start (n + 1)).fetched.length = k + 1 := by
        rw [after, step_of_reply hfetch hreply, List.length_append, List.length_singleton,
          hlength]
      obtain ⟨m, hsame, hover | ⟨later, hlater⟩⟩ :=
        exists_fetch_or_over hbrisk c start (n + 1)
      · exact .inr ⟨m, hover⟩
      · exact .inl ⟨m, later, hlater, hsame.trans hnext⟩
    · exact .inr hover

/-- A poller that fetches only while it has spent less than its time makes no more fetches than
fit into the time that it has left at first. -/
theorem length_fetched_le_ceilDiv {spent : Nat → Nat} {time step : Nat} (hstep : 0 < step)
    (hspent : ∀ k, spent k + step ≤ spent (k + 1))
    (hintime : ∀ n request, p.wait (after p c start n).state = .reply request →
      spent (after p c start n).fetched.length < time) (n : Nat) :
    (after p c start n).fetched.length ≤ (time - spent 0) ⌈/⌉ step := by
  have hused (k : Nat) : spent 0 + k * step ≤ spent k := by
    induction k with
    | zero => omega
    | succ k ih =>
      have hnext := hspent k
      rw [Nat.succ_mul]
      omega
  induction n with
  | zero => exact Nat.zero_le _
  | succ n ih =>
    rcases fetched_step p c (after p c start n) with hsame | ⟨request, hfetch, hmore⟩
    · rw [after, hsame]
      exact ih
    · have hbefore := hintime n request hfetch
      have husedBefore := hused (after p c start n).fetched.length
      have hroom : (after p c start n).fetched.length * step < time - spent 0 := by omega
      rw [after, hmore, List.length_append, List.length_singleton]
      by_contra hfull
      have hcovered : (time - spent 0) ⌈/⌉ step ≤ (after p c start n).fetched.length := by omega
      rw [ceilDiv_le_iff_le_mul hstep, Nat.mul_comm] at hcovered
      omega

end Passage

end FleetTrial
