import FleetTrial.Proofs.Http.Operations
import FleetTrial.Proofs.Json.SteadyReaders

/-!
# Replies that are cut short

The text of a snapshot says itself where it ends. It is no snapshot any more if it breaks off before
that or goes on behind it, blanks apart. So a reply that was cut short in transit is an error of its
body and never a snapshot that leaves a task undecided: the task is over, and does not ask again.
-/

namespace FleetTrial

open Http

/-- Whether a text is nothing but white space. -/
def IsBlank (text : String) : Prop := ∀ c ∈ text.toList, Json.isGap c = true

instance (text : String) : Decidable (IsBlank text) :=
  decidable_of_iff (text.toList.all Json.isGap = true) List.all_eq_true

/-- A text is blank exactly if nothing is left behind its white space. -/
theorem isEmpty_skipGap_iff (text : String) :
    (Json.skipGap text.toList).isEmpty = true ↔ IsBlank text := by
  rw [List.isEmpty_iff, Json.skipGap, List.dropWhile_eq_nil_iff]
  rfl

/-- The reader of metadata is steady. -/
theorem Metadata.isSteady_reader : reader.IsSteady := by
  apply Json.isSteady_recordReader
  simp only [members, List.mem_cons, List.not_mem_nil, or_false, forall_eq_or_imp, forall_eq]
  exact ⟨Json.Member.isSteady_of Json.isSteady_textReader.nullable _ _,
    Json.Member.isSteady_of Json.isSteady_textReader.nullable _ _⟩

/-- The reader of a status is steady. -/
theorem Status.isSteady_reader : reader.IsSteady := by
  apply Json.isSteady_recordReader
  simp only [members, List.mem_cons, List.not_mem_nil, or_false, forall_eq_or_imp, forall_eq]
  exact ⟨Json.Member.isSteady_of Json.isSteady_countReader.nullable _ _,
    Json.Member.isSteady_of Json.isSteady_textReader.nullable _ _,
    Json.Member.isSteady_of Json.isSteady_textReader.nullable _ _⟩

namespace Snapshot

/-- The members of a snapshot are read by steady readers. -/
theorem isSteady_members : ∀ m ∈ members, m.reader.IsSteady := by
  simp only [members, List.mem_cons, List.not_mem_nil, or_false, forall_eq_or_imp, forall_eq]
  exact ⟨Json.Member.isSteady_of Metadata.isSteady_reader _ _,
    Json.Member.isSteady_of Status.isSteady_reader.nullable _ _⟩

variable {text cut more : String} {s s' : Snapshot}

/-- The text of a snapshot may go on with white space and with nothing else. -/
theorem parse_more (hparse : parse text = .ok s) (more : String) :
    parse (text ++ more) = if IsBlank more then .ok s else .error .malformed := by
  rw [parse, String.toList_append, reader, Json.whole_recordReader_more isSteady_members hparse]
  exact ite_congr (propext (isEmpty_skipGap_iff more)) (fun _ => rfl) fun _ => rfl

/-- The text of a snapshot is no snapshot any more when more than white space is cut off. -/
theorem parse_of_cut (hparse : parse (text ++ cut) = .ok s) (hcut : ¬ IsBlank cut) :
    ∃ fault, parse text = .error fault := by
  cases hshort : parse text with
  | error fault => exact ⟨fault, rfl⟩
  | ok s' =>
    rw [parse_more hshort, if_neg hcut] at hparse
    cases hparse

/-- Whether a text is what is left of the text of a snapshot when more than white space is cut off,
or the text of a snapshot that goes on with more than white space. -/
inductive IsBroken : String → Prop
  | cut {text cut : String} {s : Snapshot} (hparse : parse (text ++ cut) = .ok s)
    (hcut : ¬ IsBlank cut) : IsBroken text
  | grown {text more : String} {s : Snapshot} (hparse : parse text = .ok s)
    (hmore : ¬ IsBlank more) : IsBroken (text ++ more)

/-- A broken text is no snapshot. -/
theorem IsBroken.parse_eq_error (hbroken : IsBroken text) :
    ∃ fault, parse text = .error fault := by
  cases hbroken with
  | cut hparse hcut => exact parse_of_cut hparse hcut
  | grown hparse hmore => exact ⟨.malformed, by rw [parse_more hparse, if_neg hmore]⟩

end Snapshot

namespace Http

/-- An answer whose body ended too early brings no snapshot. -/
theorem Client.ask_ne_ok_of_isCut {c : Client} {request : Request} {r : Response}
    (hverb : request.verb ≠ .delete) (hcut : r.isCut = true) (s : Snapshot) :
    c.ask request r ≠ .ok s := by
  intro hask
  have hread : r.read = .ok s := by
    rw [← (canMake_of_ask_eq_ok hask).ask_eq_read hverb, hask]
  simp only [Response.read, Response.snapshot, Response.whole?, hcut, if_true] at hread
  split at hread
  · split at hread
    · cases hread
    · rename_i hwhole
      split at hwhole
      · cases hwhole
        cases hread
      · cases hwhole
  · cases hread

/-- Whether a caller is over behind every success with a broken body, with the fault of that body
and without a further request. -/
def ShunsBroken {α : Type} (p : Caller α) (c : Exchange) (start : α)
    (failed : TrialError → α → α) : Prop :=
  ∀ n request r, IsAnswered p c start n request r → r.IsSuccess → Snapshot.IsBroken r.content →
    ∃ fault, EndsBehind p c start n request
      (failed (.badJson fault) (Dialogue.after p c start n).state)

/-- A caller that heeds every reply takes no broken body for a snapshot. -/
theorem Heeds.shunsBroken {α : Type} {p : Caller α} {c : Exchange} {start : α}
    {undecided : Nat → Snapshot → Prop} {failed : TrialError → α → α}
    (hheeds : Heeds p c start undecided failed) : ShunsBroken p c start failed := by
  intro n request r hanswered hstatus hbroken
  obtain ⟨fault, hparse⟩ := hbroken.parse_eq_error
  exact ⟨fault, hheeds.unreadable n request r fault hanswered hstatus hparse⟩

/-- **A reply that is cut short is never read as another snapshot.** The text of a snapshot may go
on with white space and with nothing else, and is no snapshot when more than white space is cut off.
So of two texts of snapshots, one begins the other only up to white space, and then they are texts
of one snapshot. A fetch and a creation find a broken body behind a success to be no snapshot, and
an answer whose body ended too early brings none. A watch, a wait for a fleet and an attempt are
over behind a success with a broken body, with the fault of that body and without a further request.
-/
theorem broken_body_never_snapshot :
    (∀ text s, Snapshot.parse text = .ok s → ∀ more,
      Snapshot.parse (text ++ more) = if IsBlank more then .ok s else .error .malformed) ∧
    (∀ text cut s, Snapshot.parse (text ++ cut) = .ok s → ¬ IsBlank cut →
      ∃ fault, Snapshot.parse text = .error fault) ∧
    (∀ text more s s', Snapshot.parse text = .ok s → Snapshot.parse (text ++ more) = .ok s' →
      IsBlank more ∧ s' = s) ∧
    (∀ (c : Client) (request : Request) (r : Reply), c.CanMake request → request.verb ≠ .delete →
      r.IsSuccess → Snapshot.IsBroken r.content →
      ∃ fault, c.ask request r.response = .error (.badJson fault)) ∧
    (∀ (c : Client) (request : Request) (r : Response), request.verb ≠ .delete →
      r.isCut = true → ∀ s, c.ask request r ≠ .ok s) ∧
    (∀ (c : Exchange) (limit : Option Duration) (interval : Duration) (initial : Snapshot)
      (postedAt : Instant) (clock : Nat → Instant),
      ShunsBroken (Watch.caller clock) c (Watch.start limit interval initial postedAt (clock 0))
        fun e _ => .over (.error e)) ∧
    (∀ (c : Exchange) (limit : Option Duration) (interval : Duration) (handle : String)
      (target : UInt64) (clock : Nat → Instant),
      ShunsBroken (Readiness.caller clock) c
        (Readiness.start limit interval handle target (clock 0)) fun e _ => .over (.error e)) ∧
    ∀ (c : Exchange) (s : Settings) (moment : Nat → Moment),
      ShunsBroken (Attempt.caller s moment) c (.sampling, [])
        fun e x => (.over (.error e), x.2) := by
  refine ⟨fun _ _ hparse more => Snapshot.parse_more hparse more,
    fun _ _ _ hparse hcut => Snapshot.parse_of_cut hparse hcut, ?_, ?_, ?_, ?_, ?_, ?_⟩
  · intro text more s s' hparse hlonger
    rw [Snapshot.parse_more hparse] at hlonger
    split at hlonger
    · rename_i hblank
      cases hlonger
      exact ⟨hblank, rfl⟩
    · cases hlonger
  · intro c request r hmade hverb hstatus hbroken
    obtain ⟨fault, hparse⟩ := hbroken.parse_eq_error
    exact ⟨fault, (hmade.tellsApart hverb r).unreadable fault hstatus hparse⟩
  · exact fun c request r hverb hcut => Client.ask_ne_ok_of_isCut hverb hcut
  · intro c limit interval initial postedAt clock
    exact ((Watch.isStrict_caller clock).heeds trivial).shunsBroken
  · intro c limit interval handle target clock
    have hstrict := Readiness.isStrict_caller clock target
    exact (hstrict.heeds (Readiness.wants_next _ _)).shunsBroken
  · intro c s moment
    have hstart : Attempt.IsGauging 0 (.sampling, []) := ⟨⟨fun _ => rfl, fun _ => rfl⟩, nofun⟩
    exact ((Attempt.isStrict_caller s moment).heeds hstart).shunsBroken

/-- What is left of the text of a finished allocation. Its first member alone would make up an
allocation that the control plane has not looked at yet. -/
def severedText : String := "\x7b\"metadata\":\x7b\"selfLink\":\"/a\"\x7d,\"status\":"

/-- What is cut off from the text of the finished allocation. -/
def severedRest : String := "\x7b\"state\":\"Allocated\"\x7d\x7d"

/-- A control plane whose only reply breaks off. -/
def severing : Exchange where
  client := localClient
  reply k := if k = 0 then some ⟨200, severedText⟩ else none

/-- A watch for an allocation that the control plane has not looked at yet. -/
def severed (n : Nat) : Dialogue Watch :=
  Dialogue.after (Watch.caller fun _ => ⟨0⟩) severing
    (Watch.start none .zero (.pending "/a") ⟨0⟩ (⟨0⟩ : Instant)) n

/-- The text that broke off is no snapshot, nor is the whole text with another value behind it. The
watch that gets what is left of the text is over with its first request. -/
theorem broken_body_never_snapshot_of_severed :
    Snapshot.parse (severedText ++ severedRest) = .ok (.inState "/a" "Allocated") ∧
    (∃ fault, Snapshot.parse severedText = .error fault) ∧
    Snapshot.parse (severedText ++ severedRest ++ " null") = .error .malformed ∧
    ∃ fault, ∀ m > 0, severed m = ⟨.over (.error (.badJson fault)), [.fetch "/a"]⟩ := by
  have hparse : Snapshot.parse (severedText ++ severedRest) = .ok (.inState "/a" "Allocated") := by
    with_unfolding_all rfl
  have hrest : ¬ IsBlank severedRest := by decide
  have hwait : (severed 0).state.wait = .reply (.fetch "/a") := by with_unfolding_all rfl
  have hmade : localClient.CanMake (.fetch "/a") := ⟨_, rfl⟩
  obtain ⟨hmore, hcut, _, _, _, hwatch, _⟩ := broken_body_never_snapshot
  refine ⟨hparse, hcut severedText severedRest _ hparse hrest, ?_, ?_⟩
  · rw [hmore _ _ hparse " null", if_neg (by decide)]
  · obtain ⟨fault, _, hends⟩ := hwatch severing none .zero (.pending "/a") ⟨0⟩ (fun _ => ⟨0⟩) 0
      (.fetch "/a") ⟨200, severedText⟩ ⟨hwait, hmade, rfl⟩ (by decide) (.cut hparse hrest)
    exact ⟨fault, hends⟩

end Http

end FleetTrial
