import FleetTrial.Proofs.Allocation.AttemptMoves
import FleetTrial.Proofs.Http.Dialogue
import FleetTrial.Proofs.Settings.Soundness
import FleetTrial.Trial.Readiness

/-!
# Operations over HTTP

A watch, the wait for a fleet and an attempt are strict callers. They differ in what decides them: a
watch goes on as long as it sees no outcome, the wait as long as it does not see the wanted number
of ready replicas, and an attempt wants a number of ready replicas of its first reply and behaves
like its watch from then on. The event of an outcome is published with that outcome only, so an
attempt that fails has published none.
-/

namespace FleetTrial

open Http

/-- Whether a snapshot shows no outcome. -/
def Snapshot.IsPending (s : Snapshot) : Prop :=
  s.state? ≠ some "Allocated" ∧ s.state? ≠ some "UnAllocated"

/-- A snapshot is pending if a poll finds no outcome in it. -/
theorem Poll.isPending_of_outcome? {p : Poll} (hnone : p.outcome? = none) : p.latest.IsPending := by
  constructor <;> intro hstate <;> simp [Poll.outcome?, hstate, Outcome.ofState?] at hnone

namespace Watch

/-- A watch as a caller, with the instants at which it goes on when so many requests have been
answered. -/
def caller (clock : Nat → Instant) : Caller Watch := ⟨wait, fun k => resume (clock k)⟩

/-- A look at a snapshot that leaves a watch open finds no outcome. -/
theorem isPending_of_inspect {clock : Readings} {p : Poll}
    (hopen : (p.inspect clock).wait ≠ .over) :
    p.latest.IsPending := by
  apply Poll.isPending_of_outcome?
  unfold Poll.inspect at hopen
  split at hopen
  · exact absurd rfl hopen
  · assumption

/-- A reply with a snapshot leaves a watch open only if the snapshot shows no outcome. -/
theorem isPending_of_resume {clock : Readings} {w : Watch} {request : Request} {s : Snapshot}
    (hwait : w.wait = .reply request) (hopen : (w.resume clock (.reply (.ok s))).wait ≠ .over) :
    s.IsPending := by
  cases w with
  | fetching p link => exact isPending_of_inspect hopen
  | pausing p | «over» result => cases hwait

/-- A watch is a strict caller. -/
theorem isStrict_caller (clock : Nat → Instant) :
    (caller clock).IsStrict (fun _ _ => True) (fun _ s => s.IsPending)
      (fun e _ => .over (.error e)) where
  asks w request hwait := by
    cases w <;> cases hwait
    nofun
  fails k w request e hwait := by
    cases w <;> cases hwait
    exact ⟨rfl, rfl⟩
  paused _ _ _ _ _ := trivial
  replied _ _ _ _ _ _ := trivial
  passes k w request s _ hwait hopen := isPending_of_resume hwait hopen

end Watch

namespace Readiness

/-- The wait for a fleet as a caller, with the instants at which it goes on. -/
def caller (clock : Nat → Instant) : Caller Readiness := ⟨wait, fun k => resume (clock k)⟩

/-- Whether a wait that is not over waits for so many ready replicas. -/
def Wants (target : UInt64) : Readiness → Prop
  | .pausing c => c.target = target
  | .fetching c => c.target = target
  | .over _ => True

/-- What goes on with a census wants what the census wants. -/
theorem wants_next (now : Instant) (c : Census) : Wants c.target (c.next now) := by
  unfold Census.next
  split
  · trivial
  · split <;> exact rfl

/-- The wait for a fleet is a strict caller. -/
theorem isStrict_caller (clock : Nat → Instant) (target : UInt64) :
    (caller clock).IsStrict (fun _ r => Wants target r)
      (fun _ s => s.readyReplicas? ≠ some target) (fun e _ => .over (.error e)) where
  asks r request hwait := by
    cases r <;> cases hwait
    nofun
  fails k r request e hwait := by
    cases r <;> cases hwait
    exact ⟨rfl, rfl⟩
  paused k r span hwants hwait := by
    cases r <;> cases hwait
    exact hwants
  replied k r request result hwants hwait := by
    cases r <;> cases hwait
    rename_i c
    obtain rfl : c.target = target := hwants
    cases result with
    | error e => trivial
    | ok s =>
      simp only [caller, resume]
      split
      · trivial
      · exact wants_next _ (c.see s)
  passes k r request s hwants hwait hopen := by
    cases r <;> cases hwait
    rename_i c
    obtain rfl : c.target = target := hwants
    intro hready
    apply hopen
    simp only [caller, resume, Census.see, hready, Option.some_or, if_true]
    rfl

end Readiness

namespace Attempt

/-- An attempt as a caller that gathers its events, with the moments at which it goes on. -/
def caller (s : Settings) (moment : Nat → Moment) : Caller (Attempt × List Event) where
  wait a := a.1.wait s
  resume k answer a :=
    let behind := a.1.resume s (moment k) answer
    (behind.1, a.2 ++ behind.2)

/-- Whether events are of the number of ready replicas only. -/
def AreGauges (events : List Event) : Prop := ∀ e ∈ events, e.label = Event.readyReplicasLabel

/-- What holds of an attempt when so many requests have been answered: the fleet is asked for first
and never again, and there is no event of an outcome without that outcome. -/
structure IsGauging (k : Nat) (a : Attempt × List Event) : Prop where
  sampling : a.1 = .sampling ↔ k = 0
  gauges : (∀ outcome, a.1 ≠ .over (.ok outcome)) → AreGauges a.2

/-- Whether a snapshot in reply to request `k` leaves an attempt undecided. -/
def IsUndecided (k : Nat) (s : Snapshot) : Prop :=
  if k = 0 then s.readyReplicas? ≠ none else s.IsPending

variable {s : Settings} {m : Moment} {answer : Answer} {a : Attempt}

/-- An attempt whose watch has gone on does not ask for the fleet again, and publishes nothing but
its outcome. -/
theorem settle_spec (m : Moment) (w : Watch) :
    (settle m w).1 ≠ .sampling ∧
    ((∀ outcome, (settle m w).1 ≠ .over (.ok outcome)) → (settle m w).2 = []) := by
  unfold settle
  split
  · exact ⟨nofun, fun _ => rfl⟩
  · split
    · exact ⟨nofun, fun _ => rfl⟩
    · exact ⟨nofun, fun hfailed => absurd rfl (hfailed _)⟩
  · exact ⟨nofun, fun _ => rfl⟩

/-- An attempt that is left open has left its watch open. -/
theorem wait_ne_over_of_settle {w : Watch} (hopen : (settle m w).1.wait s ≠ .over) :
    w.wait ≠ .over := by
  cases w with
  | «over» result =>
    refine absurd ?_ hopen
    unfold settle
    split
    · rfl
    · split <;> rfl
    · rfl
  | pausing p | fetching p link => nofun

/-- An attempt that watches has its watch take a reply. -/
theorem resume_watching (w : Watch) (result : Except TrialError Snapshot) :
    resume s m (.reply result) (.watching w) = settle m (w.resume m.readings (.reply result)) := by
  cases result <;> rfl

/-- A stamped event has the label that it is given. -/
theorem label_of_stamp {unix : Except Crash Int} {label : String} {value : UInt64}
    {event : Event} (hstamp : stamp unix label value = .ok event) : event.label = label := by
  obtain ⟨time, _, rfl⟩ := ok_of_map_eq_ok hstamp
  rfl

/-- The answer to the request for an allocation has an attempt publish the number of ready replicas,
and nothing else unless there is an outcome. -/
theorem areGauges_posted {ready : UInt64} {postedAt : Instant} {initial : Snapshot}
    (hfailed : ∀ outcome, (posted s m ready postedAt initial).1 ≠ .over (.ok outcome)) :
    AreGauges (posted s m ready postedAt initial).2 := by
  unfold posted at hfailed ⊢
  split
  · exact nofun
  · rename_i event hstamp
    rw [hstamp] at hfailed
    simp only [(settle_spec m _).2 hfailed, AreGauges, List.mem_singleton, forall_eq]
    exact label_of_stamp hstamp

/-- An attempt that goes on without an outcome publishes the number of ready replicas at most. -/
theorem areGauges_resume (hfailed : ∀ outcome, (a.resume s m answer).1 ≠ .over (.ok outcome)) :
    AreGauges (a.resume s m answer).2 := by
  unfold resume at hfailed ⊢
  split at hfailed
  · exact nofun
  · exact nofun
  · exact nofun
  · exact areGauges_posted hfailed
  · exact nofun
  · rw [(settle_spec m _).2 hfailed]
    exact nofun
  · exact nofun

/-- The fleet is asked for only once. -/
theorem resume_ne_sampling {request : Request} {result : Except TrialError Snapshot}
    (hwait : a.wait s = .reply request) : (a.resume s m (.reply result)).1 ≠ .sampling := by
  cases a with
  | sampling =>
    intro hsampling
    cases result with
    | error e => cases hsampling
    | ok fleet =>
      simp only [resume, sample] at hsampling
      split at hsampling <;> cases hsampling
  | requesting ready postedAt =>
    cases result with
    | error e =>
      intro hsampling
      cases hsampling
    | ok initial =>
      simp only [resume, posted]
      split
      · intro hsampling
        cases hsampling
      · exact (settle_spec m _).1
  | watching w =>
    rw [resume_watching]
    exact (settle_spec m _).1
  | «over» result | crashed crash => cases hwait

/-- What holds of an attempt that waits holds of it when it goes on. -/
theorem IsGauging.next {k k' : Nat} {x : Attempt × List Event} (hgauging : IsGauging k x)
    (hopen : x.1.wait s ≠ .over) (hsampling : (x.1.resume s m answer).1 ≠ .sampling)
    (hk' : k' ≠ 0) :
    IsGauging k' ((x.1.resume s m answer).1, x.2 ++ (x.1.resume s m answer).2) where
  sampling := by simp [hsampling, hk']
  gauges hfailed e he := by
    obtain hearlier | hnew := List.mem_append.mp he
    · refine hgauging.gauges (fun outcome hover => hopen ?_) e hearlier
      rw [hover]
      rfl
    · exact areGauges_resume hfailed e hnew

/-- A snapshot that an attempt goes on from has left it undecided. -/
theorem isUndecided_of_resume {k : Nat} {x : Attempt × List Event} {request : Request}
    {snapshot : Snapshot} (hgauging : IsGauging k x) (hwait : x.1.wait s = .reply request)
    (hopen : (x.1.resume s m (.reply (.ok snapshot))).1.wait s ≠ .over) :
    IsUndecided k snapshot := by
  obtain ⟨a, events⟩ := x
  have hsampling : a = .sampling ↔ k = 0 := hgauging.sampling
  unfold IsUndecided
  cases a with
  | sampling =>
    rw [if_pos (hsampling.mp rfl)]
    intro hready
    apply hopen
    simp only [resume, sample, hready]
    rfl
  | requesting ready postedAt =>
    have hk : k ≠ 0 := fun hk => by cases hsampling.mpr hk
    rw [if_neg hk]
    simp only [resume, posted] at hopen
    split at hopen
    · exact absurd rfl hopen
    · exact Watch.isPending_of_inspect (wait_ne_over_of_settle hopen)
  | watching w =>
    have hk : k ≠ 0 := fun hk => by cases hsampling.mpr hk
    rw [if_neg hk]
    rw [resume_watching] at hopen
    exact Watch.isPending_of_resume hwait (wait_ne_over_of_settle hopen)
  | «over» result | crashed crash => cases hwait

/-- An attempt is a strict caller. -/
theorem isStrict_caller (s : Settings) (moment : Nat → Moment) :
    (caller s moment).IsStrict IsGauging IsUndecided (fun e x => (.over (.error e), x.2)) where
  asks x request hwait := by
    obtain ⟨a, events⟩ := x
    cases a with
    | watching w =>
      cases w <;> cases hwait
      nofun
    | sampling | requesting ready postedAt =>
      cases hwait
      nofun
    | «over» result | crashed crash => cases hwait
  fails k x request e hwait := by
    obtain ⟨a, events⟩ := x
    cases a with
    | watching w =>
      cases w <;> cases hwait
      exact ⟨congrArg _ (List.append_nil events), rfl⟩
    | sampling | requesting ready postedAt => exact ⟨congrArg _ (List.append_nil events), rfl⟩
    | «over» result | crashed crash => cases hwait
  paused k x span hgauging hwait := by
    obtain ⟨a, events⟩ := x
    have hopen : a.wait s ≠ .over := fun hover => nomatch hwait.symm.trans hover
    cases a with
    | watching w =>
      exact hgauging.next hopen (settle_spec _ _).1 fun hk => nomatch hgauging.sampling.mpr hk
    | sampling | requesting ready postedAt | «over» result | crashed crash => cases hwait
  replied k x request result hgauging hwait :=
    hgauging.next (fun hover => nomatch hwait.symm.trans hover) (resume_ne_sampling hwait)
      (Nat.succ_ne_zero k)
  passes k x request snapshot hgauging hwait hopen := isUndecided_of_resume hgauging hwait hopen

/-- The number of ready replicas is not published under the label of an outcome. -/
theorem label_ne_of_areGauges {events : List Event} (hgauges : AreGauges events) :
    ∀ e ∈ events, ∀ outcome : Outcome, e.label ≠ outcome.label := by
  intro e he outcome
  rw [hgauges e he]
  cases outcome <;> decide

end Attempt

namespace Http

/-- **A refusal is never mistaken for a resource that is not there yet.** A fetch and a creation
bring a snapshot exactly if their reply is a success with that snapshot in its body. A deletion is
done exactly with a success or a missing resource. Behind the first reply of another status a watch,
a wait for a fleet and an attempt are over with that status and its text, and behind the first
success that is no snapshot with the fault of its body, without a further request and, for an
attempt, without the event of an outcome. They ask again only behind snapshots that leave them
undecided. -/
theorem refusal_never_mistaken :
    (∀ (c : Client) (request : Request) (r : Reply), c.CanMake request → request.verb ≠ .delete →
      c.TellsApart request r) ∧
    (∀ (c : Client) (path : String) (r : Reply), c.CanMake (.delete path) →
      c.ask (.delete path) r.response =
        if r.IsSuccess ∨ r.status = 404 then .ok .empty else .error (.rejected r.status r.text)) ∧
    (∀ r : Reply, Response.isBodiless r.status = false → r.content = r.body ∧
      (r.body.toList.head? ≠ some '\ufeff' → r.text = r.body)) ∧
    (∀ (c : Exchange) (limit : Option Duration) (interval : Duration) (initial : Snapshot)
      (postedAt : Instant) (clock : Nat → Instant),
      Heeds (Watch.caller clock) c (Watch.start limit interval initial postedAt (clock 0))
        (fun _ s => s.IsPending) fun e _ => .over (.error e)) ∧
    (∀ (c : Exchange) (limit : Option Duration) (interval : Duration) (handle : String)
      (target : UInt64) (clock : Nat → Instant),
      Heeds (Readiness.caller clock) c (Readiness.start limit interval handle target (clock 0))
        (fun _ s => s.readyReplicas? ≠ some target) fun e _ => .over (.error e)) ∧
    ∀ (c : Exchange) (s : Settings) (moment : Nat → Moment),
      Heeds (Attempt.caller s moment) c (.sampling, []) Attempt.IsUndecided
        (fun e x => (.over (.error e), x.2)) ∧
      ∀ n e, (Dialogue.after (Attempt.caller s moment) c (.sampling, []) n).state.1 =
        .over (.error e) →
        ∀ event ∈ (Dialogue.after (Attempt.caller s moment) c (.sampling, []) n).state.2,
          ∀ outcome : Outcome, event.label ≠ outcome.label := by
  refine ⟨fun c request r hmade hverb => hmade.tellsApart hverb r, ?_, ?_, ?_, ?_, ?_⟩
  · intro c path r hmade
    rw [hmade.ask_eq]
    exact Reply.readDeleted_response r
  · exact fun r hbody => ⟨Reply.content_eq_body hbody, Reply.text_eq_body hbody⟩
  · intro c limit interval initial postedAt clock
    exact (Watch.isStrict_caller clock).heeds trivial
  · intro c limit interval handle target clock
    exact (Readiness.isStrict_caller clock target).heeds (Readiness.wants_next _ _)
  · intro c s moment
    have hstrict := Attempt.isStrict_caller s moment
    have hstart : Attempt.IsGauging 0 (.sampling, []) := ⟨⟨fun _ => rfl, fun _ => rfl⟩, nofun⟩
    refine ⟨hstrict.heeds hstart, fun n e hover => ?_⟩
    apply Attempt.label_ne_of_areGauges
    apply (hstrict.holds_after hstart n).gauges
    rw [hover]
    nofun

/-- A client of a control plane on the same machine. -/
def localClient : Client where
  base := { scheme := "http".toList, host := some (.domain "localhost".toList), port := some 8001,
            path := .segments [[]] }
  headers := []

/-- A control plane with three ready replicas that takes the request for an allocation and does not
know that allocation afterwards. -/
def forgetful : Exchange where
  client := localClient
  reply k := [⟨200, "\x7b\"status\":\x7b\"readyReplicas\":3\x7d\x7d"⟩,
    ⟨201, "\x7b\"metadata\":\x7b\"selfLink\":\"/a\"\x7d\x7d"⟩, ⟨404, "gone"⟩][k]?

/-- An attempt at a forgetful control plane. -/
def misled (n : Nat) : Dialogue (Attempt × List Event) :=
  Dialogue.after (Attempt.caller (.small 1 1) fun _ => .origin) forgetful (.sampling, []) n

/-- A missing allocation ends the attempt, which has published the number of ready replicas only. -/
theorem refusal_of_missing_allocation :
    ((misled 2).state.1.wait (.small 1 1) = .reply (.fetch "/a")) ∧
    ∀ m > 2, (misled m).state = (.over (.error (.rejected 404 "gone")), [Attempt.gauge 0 3]) ∧
      (misled m).requests.length = 3 := by
  have hwait : (misled 2).state.1.wait (.small 1 1) = .reply (.fetch "/a") := by
    with_unfolding_all rfl
  have hmade : localClient.CanMake (.fetch "/a") := ⟨_, rfl⟩
  have hreply : forgetful.reply (misled 2).requests.length = some ⟨404, "gone"⟩ := by
    with_unfolding_all rfl
  obtain ⟨_, _, _, _, _, hattempt⟩ := refusal_never_mistaken
  obtain ⟨hheeds, _⟩ := hattempt forgetful (.small 1 1) fun _ => .origin
  obtain ⟨_, hends⟩ :=
    hheeds.refused 2 (.fetch "/a") ⟨404, "gone"⟩ ⟨hwait, hmade, hreply⟩ (by decide)
  refine ⟨hwait, fun m hm => ?_⟩
  rw [misled, hends m hm]
  with_unfolding_all exact ⟨rfl, rfl⟩

end Http

end FleetTrial
