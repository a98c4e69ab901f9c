import FleetTrial.Proofs.Measurement.Lines
import FleetTrial.Proofs.Trial.Reconciliation
import FleetTrial.Proofs.Trial.Shutdown
import Mathlib.Algebra.BigOperators.Group.List.Basic

/-!
# What reaches the collector

A user that has opened its connection writes every event to it that it publishes, and nothing else;
before that it publishes nothing. However its work ends, it closes the connection behind the last
line and gives it up: from then on only the collector knows of the connection. So what all users of
a trial have written is what the tally of the trial has recorded.
-/

namespace FleetTrial

/-- Whether a connection has received the lines of some events and nothing else. -/
def Forwarder.HasReceived (space : String) (events : List Event) (f : Forwarder) : Prop :=
  f.space = space ∧ f.received = Event.stream space events

/-- A collector finds the label of the ready replicas. -/
theorem Event.isPlain_readyReplicasLabel : IsPlain readyReplicasLabel := by decide

/-- A collector finds the labels of all outcomes. -/
theorem Outcome.isPlain_label (outcome : Outcome) : Event.IsPlain outcome.label := by
  cases outcome <;> decide

namespace Attempt

variable {unix : Int × Int} {a a' : Attempt} {answer : Answer} {events : List Event}

/-- A collector finds the labels of all events that a settled attempt publishes. -/
theorem Settled.isPlain (hsettled : Settled unix a events) :
    ∀ e ∈ events, Event.IsPlain e.label := by
  intro e he
  cases hsettled with
  | watching => cases he
  | ended outcome =>
    cases List.mem_singleton.mp he
    exact outcome.isPlain_label
  | failed => cases he

/-- A collector finds the labels of all events that an attempt publishes. -/
theorem Move.isPlain (hmove : Move unix a answer a' events) :
    ∀ e ∈ events, Event.IsPlain e.label := by
  intro e he
  cases hmove with
  | sampled => cases he
  | unsampled => cases he
  | rejected => cases he
  | posted _ _ _ hsettled =>
    rcases List.mem_cons.mp he with rfl | he
    · exact Event.isPlain_readyReplicasLabel
    · exact hsettled.isPlain e he
  | watched _ _ hsettled => exact hsettled.isPlain e he

end Attempt

namespace User

variable {s : Settings} {m : Moment} {unix : Int × Int} {u u' u₁ : User} {answer : Answer}
  {entry : Entry} {events : List Event}

/-- Whether a user has not opened a connection, and is not going to publish anything before it
does. -/
def IsUnopened (u : User) : Prop :=
  u.forwarder = none ∧
    match u.activity with
    | .connecting _ | .unconnected _ | .aborted => True
    | _ => False

/-- A user that has not opened a connection is in no attempt, and between no two. -/
theorem IsUnopened.isInterruptible_eq_false (hunopened : u.IsUnopened) :
    u.isInterruptible = false := by
  obtain ⟨_, hidle⟩ := hunopened
  unfold isInterruptible
  split
  · simp only [*] at hidle
  · simp only [*] at hidle
  · simp only [*] at hidle
  · rfl

/-- Whether a user has a connection, or has had one, which has received some events. -/
def HasConveyed (s : Settings) (events : List Event) (u : User) : Prop :=
  ∃ f, u.forwarder = some f ∧ f.HasReceived s.metrics.space events

/-- How a user of a collector stands that has published some events. -/
inductive Conveying (s : Settings) (events : List Event) (u : User) : Prop
  | unopened (hunopened : u.IsUnopened) (hnothing : events = [])
  | opened (hconveyed : u.HasConveyed s events)

/-- A new connection has received nothing. -/
theorem hasConveyed_linked (s : Settings) (u : User) : (u.linked s).HasConveyed s [] :=
  ⟨_, rfl, rfl, rfl⟩

/-- What a wired user writes to its connection arrives behind the lines before. -/
theorem HasConveyed.forwardAll (hconveyed : u.HasConveyed s events) (hwired : u.IsWired)
    (later : List Event) : (u.forwardAll later).HasConveyed s (events ++ later) := by
  obtain ⟨f, hf, hspace, hreceived⟩ := hconveyed
  rcases hwired with ⟨_, _, hhandle, hreleased⟩ | ⟨_, _, _, g, hhandle, _⟩
  · rw [User.forwarder, hhandle, hreleased] at hf
    cases hf
  · rw [User.forwarder, hhandle, Option.some_or] at hf
    cases hf
    refine ⟨f.writeAll later, ?_, ?_⟩
    · rw [User.forwarder, User.forwardAll, hhandle, Option.map_some, Option.some_or]
    · rw [Forwarder.writeAll_eq]
      exact ⟨hspace, by rw [hreceived, hspace, Event.stream_append]⟩

/-- A user that finishes writes nothing more. -/
theorem HasConveyed.finish (hconveyed : u.HasConveyed s events) :
    u.finish.HasConveyed s events := by
  obtain ⟨f, hf, hreceived⟩ := hconveyed
  unfold User.forwarder at hf
  cases hhandle : u.handle with
  | none =>
    rw [hhandle, Option.none_or] at hf
    refine ⟨f, ?_, hreceived⟩
    simp only [User.forwarder, User.finish, tearDown, hhandle, hf, Option.map_none, Option.none_or]
  | some g =>
    rw [hhandle, Option.some_or] at hf
    cases hf
    refine ⟨f.close, ?_, hreceived⟩
    simp only [User.forwarder, User.finish, tearDown, hhandle, Option.map_some, Option.none_or,
      Option.some_or]

/-- A user that goes on before an attempt writes nothing. -/
theorem Begun.hasConveyed {wall : Duration} (hbegun : Begun s wall u u')
    (hconveyed : u.HasConveyed s events) : u'.HasConveyed s events := by
  cases hbegun with
  | finished => exact hconveyed.finish
  | attempting => exact hconveyed
  | dropping => exact hconveyed

/-- A user that goes on behind an attempt writes nothing more. -/
theorem Reflected.hasConveyed (hreflected : Reflected s m u u')
    (hconveyed : u.HasConveyed s events) : u'.HasConveyed s events := by
  cases hreflected with
  | finished => exact hconveyed.finish
  | thinking => exact hconveyed
  | crashed => exact hconveyed

/-- A user that works has opened its connection. -/
theorem Conveying.hasConveyed (hconveying : Conveying s events u) (hopened : ¬u.IsUnopened) :
    u.HasConveyed s events := by
  cases hconveying with
  | unopened hunopened => exact absurd hunopened hopened
  | opened hconveyed => exact hconveyed

/-- A user that arrives at its start has opened its connection. -/
theorem Arrives.hasConveyed (harrives : u.Arrives s answer u₁) (hkept : u.IsKept)
    (hconveying : Conveying s events u) : u₁.HasConveyed s events := by
  cases harrives with
  | starting hactivity =>
    exact hconveying.hasConveyed fun hunopened => by
      simp only [IsUnopened, hactivity, and_false] at hunopened
  | connected hactivity =>
    cases hconveying with
    | unopened _ hnothing => exact hnothing ▸ hasConveyed_linked s u
    | opened hconveyed =>
      -- A user that still connects has no connection yet.
      obtain ⟨f, hf, _⟩ := hconveyed
      simp only [IsKept, hactivity] at hkept
      rw [User.forwarder, hkept.2.2.1, hkept.2.2.2] at hf
      cases hf

/-- A move writes the events to the connection that it publishes, and nothing else. -/
theorem Move.conveying (hmove : Move s m unix u answer entry u') (hkept : u.IsKept)
    (hconveying : Conveying s events u) : Conveying s (events ++ entry.events) u' := by
  have hnone : events ++ Entry.blank.events = events := List.append_nil events
  have hopened (hactivity : ∀ hunopened : u.IsUnopened, False) : u.HasConveyed s events :=
    hconveying.hasConveyed hactivity
  cases hmove with
  | refused hactivity e =>
    cases hconveying with
    | unopened hunopened hnothing =>
      exact .unopened ⟨hunopened.1, trivial⟩ ((List.append_nil events).trans hnothing)
    | opened hconveyed =>
      exact .opened ((List.append_nil events).symm ▸ hconveyed)
  | started harrives _ hbegun =>
    rw [hnone]
    exact .opened (hbegun.hasConveyed (harrives.hasConveyed hkept hconveying))
  | unstarted harrives =>
    rw [hnone]
    exact .opened (harrives.hasConveyed hkept hconveying)
  | resumed hactivity hbegun =>
    rw [hnone]
    refine .opened (hbegun.hasConveyed (hopened fun hunopened => ?_))
    simp only [IsUnopened, hactivity, and_false] at hunopened
  | stopped hinterruptible _ =>
    rw [hnone]
    refine .opened (HasConveyed.finish (hopened fun hunopened => ?_))
    cases hunopened.isInterruptible_eq_false.symm.trans hinterruptible
  | attempting hactivity =>
    simp only [IsKept, hactivity] at hkept
    refine .opened (HasConveyed.forwardAll (hopened fun hunopened => ?_) hkept _)
    simp only [IsUnopened, hactivity, and_false] at hunopened
  | dropped hactivity =>
    simp only [IsKept, hactivity] at hkept
    refine .opened (HasConveyed.forwardAll (hopened fun hunopened => ?_) hkept _).finish
    simp only [IsUnopened, hactivity, and_false] at hunopened
  | ended hactivity _ hreflected =>
    simp only [IsKept, hactivity] at hkept
    refine .opened (hreflected.hasConveyed
      (HasConveyed.forwardAll (hopened fun hunopened => ?_) hkept _))
    simp only [IsUnopened, hactivity, and_false] at hunopened

/-- A signal does not touch the connection of a user. -/
theorem Conveying.signal (hconveying : Conveying s events u) : Conveying s events u.signal := by
  cases hconveying with
  | unopened hunopened hnothing => exact .unopened hunopened hnothing
  | opened hconveyed => exact .opened hconveyed

/-- Cutting a user off does not touch its connection. -/
theorem Conveying.abort (hconveying : Conveying s events u) : Conveying s events u.abort := by
  unfold User.abort
  split
  · exact hconveying
  cases hconveying with
  | unopened hunopened hnothing => exact .unopened ⟨hunopened.1, trivial⟩ hnothing
  | opened hconveyed => exact .opened hconveyed

/-- A collector finds the labels of all events that a user publishes. -/
theorem Move.isPlain (hmove : Move s m unix u answer entry u') :
    ∀ e ∈ entry.events, Event.IsPlain e.label := by
  cases hmove with
  | attempting _ hmove => exact hmove.isPlain
  | dropped _ hmove => exact hmove.isPlain
  | ended _ hmove => exact hmove.isPlain
  | _ => exact fun e he => (List.not_mem_nil he).elim

variable {start : Tally} {id : Nat} {w : Tally × User}
  {history : List (Scene (Tally × User) UserCue)}

/-- What the collector has received from a user. -/
def received (u : User) : String := (u.forwarder.map (·.received)).getD ""

end User

namespace Trial

variable {s : Settings} {t : Trial} {m : Moment} {answer : Answer} {id n : Nat}
  {history : List (Scene Trial TrialCue)}

/-- The events that one user publishes in a scene. -/
def eventsOf (id : Nat) (scene : Scene Trial TrialCue) : List Event :=
  match scene.cue with
  | .answer (.user number) _ _ => if number = id then (sceneEntry scene).events else []
  | _ => []

/-- The events that one user publishes in some scenes, in order. -/
def publishedBy (id : Nat) (history : List (Scene Trial TrialCue)) : List Event :=
  history.flatMap (eventsOf id)

/-- The events of one more scene come behind those before. -/
theorem publishedBy_concat (id : Nat) (history : List (Scene Trial TrialCue))
    (scene : Scene Trial TrialCue) :
    publishedBy id (history ++ [scene]) = publishedBy id history ++ eventsOf id scene := by
  rw [publishedBy, List.flatMap_append, List.flatMap_singleton, publishedBy]

/-- A scene without events leaves each user what it has published before. -/
theorem publishedBy_concat_of_nil {scene : Scene Trial TrialCue} (hnil : eventsOf id scene = []) :
    publishedBy id (history ++ [scene]) = publishedBy id history := by
  rw [publishedBy_concat, hnil, List.append_nil]

/-- What is known of the connections of a trial that `history` has led to. -/
structure Conveys (s : Settings) (history : List (Scene Trial TrialCue)) (t : Trial) : Prop where
  users : EachUser (fun id u => u.IsKept ∧ u.Conveying s (publishedBy id history)) t.users
  beyond : ∀ id, t.users.length ≤ id → publishedBy id history = []
  plain : ∀ id, ∀ e ∈ publishedBy id history, Event.IsPlain e.label

/-- A scene in which nobody publishes anything leaves all connections as they are. -/
theorem Conveys.quiet (hconveys : Conveys s history t) {t' : Trial} {scene : Scene Trial TrialCue}
    (hquiet : ∀ id, eventsOf id scene = [])
    (husers : EachUser (fun id u => u.IsKept ∧ u.Conveying s (publishedBy id history)) t'.users)
    (hlength : t.users.length ≤ t'.users.length) : Conveys s (history ++ [scene]) t' := by
  have hsame (id : Nat) : publishedBy id (history ++ [scene]) = publishedBy id history :=
    publishedBy_concat_of_nil (hquiet id)
  constructor
  case users => simpa only [hsame] using husers
  case beyond =>
    exact fun id hid => (hsame id).trans (hconveys.beyond id (Nat.le_trans hlength hid))
  case plain => exact fun id => (hsame id).symm ▸ hconveys.plain id

/-- A user that makes a move writes its events to its own connection. -/
theorem Conveys.withUser (hconveys : Conveys s history t) (hsettings : t.settings = s)
    {unix : Int × Int} {u u' : User} (hu : t.users[id]? = some u)
    (hmove : User.Move s m unix u answer (u.entry s m answer) u') :
    Conveys s (history ++ [⟨t, .answer (.user id) m answer⟩])
      (t.withUser id (u.entry s m answer) u') := by
  have hown : eventsOf id ⟨t, .answer (.user id) m answer⟩ = (u.entry s m answer).events := by
    simp only [eventsOf, sceneEntry, hu, hsettings, if_true]
  have hothers {number : Nat} (hnumber : id ≠ number) :
      eventsOf number ⟨t, .answer (.user id) m answer⟩ = [] := if_neg hnumber
  have hlength : id < t.users.length := (List.getElem?_eq_some_iff.mp hu).1
  constructor
  case users =>
    intro number v hv
    by_cases hnumber : id = number
    · subst hnumber
      obtain ⟨hkept, hconveying⟩ := hconveys.users id u hu
      cases (List.getElem?_set_self hlength).symm.trans hv
      rw [publishedBy_concat, hown]
      exact ⟨hmove.isKept hkept, hmove.conveying hkept hconveying⟩
    · rw [publishedBy_concat_of_nil (hothers hnumber)]
      exact hconveys.users number v ((List.getElem?_set_ne hnumber).symm.trans hv)
  case beyond =>
    intro number hnumber
    have hbeyond : t.users.length ≤ number := by
      rwa [Trial.withUser, List.length_set] at hnumber
    rw [publishedBy_concat_of_nil (hothers (by omega))]
    exact hconveys.beyond number hbeyond
  case plain =>
    intro number
    by_cases hnumber : id = number
    · subst hnumber
      rw [publishedBy_concat, hown]
      intro e he
      rcases List.mem_append.mp he with hold | hnew
      · exact hconveys.plain id e hold
      · exact hmove.isPlain e hnew
    · rw [publishedBy_concat_of_nil (hothers hnumber)]
      exact hconveys.plain number

end Trial

end FleetTrial
