import FleetTrial.Proofs.Trial.Setup

/-!
# What each user has done

The history of a trial tells which user has requested what, whose attempts have ended and how, and
whose connection was refused. As long as no signal comes, the requests of a user are those of its
attempts, one attempt behind the other and each beginning with a request for the fleet, and one
attempt has ended for each of them but the one in flight. A user whose connection was refused has
requested nothing.
-/

namespace FleetTrial

/-- What stands under a key, in order. -/
def under {κ α : Type} [DecidableEq κ] (key : κ) (entries : List (κ × α)) : List α :=
  (entries.filter (·.1 = key)).map (·.2)

/-- What stands under a key behind more entries. -/
theorem under_append {κ α : Type} [DecidableEq κ] (key : κ) (entries later : List (κ × α)) :
    under key (entries ++ later) = under key entries ++ under key later := by
  simp only [under, List.filter_append, List.map_append]

/-- Entries under the key itself stand under it. -/
theorem under_self {κ α : Type} [DecidableEq κ] (key : κ) (a : Option α) :
    under key (a.map (key, ·)).toList = a.toList := by
  cases a <;> simp [under]

/-- Entries under other keys do not stand under this one. -/
theorem under_of_ne {κ α : Type} [DecidableEq κ] {key other : κ} (hne : other ≠ key)
    (a : Option α) : under key (a.map (other, ·)).toList = [] := by
  cases a <;> simp [under, hne]

/-- Whether these are the requests of an attempt: it asks for the fleet, goes on to request an
allocation, and fetches that as often as it takes. -/
def IsAttempt (s : Settings) (requests : List Request) : Prop :=
  ∃ later, requests = .fetch s.fleetPath :: later ∧ (later = [] ∨ ∃ links : List String,
    later = .create s.allocationsPath (Manifest.allocation s) :: links.map .fetch)

namespace Attempt

variable {s : Settings} {unix : Int × Int} {a a' : Attempt} {answer : Answer} {events : List Event}
  {requests : List Request}

/-- What an attempt has requested, by how far it has come. -/
inductive Has (s : Settings) : Attempt → List Request → Prop
  | sampling : Has s .sampling [.fetch s.fleetPath]
  | requesting (ready : UInt64) (postedAt : Instant) : Has s (.requesting ready postedAt)
    [.fetch s.fleetPath, .create s.allocationsPath (Manifest.allocation s)]
  | watching (w : Watch) (links : List String) : Has s (.watching w)
    (.fetch s.fleetPath :: .create s.allocationsPath (Manifest.allocation s) :: links.map .fetch)
  | over {result : Except TrialError Outcome} {requests : List Request}
    (hattempt : IsAttempt s requests) : Has s (.over result) requests

/-- What a settled attempt has requested, if it goes on to watch what it has requested so far. -/
theorem Settled.has (hsettled : Settled unix a events) (links : List String) :
    a.Has s (.fetch s.fleetPath :: .create s.allocationsPath (Manifest.allocation s) ::
      links.map .fetch ++ (a.wait s).request?.toList) := by
  cases hsettled with
  | watching w =>
    cases w with
    | fetching p link =>
      have hlinks : (links ++ [link]).map Request.fetch =
          links.map .fetch ++ [.fetch link] := List.map_append
      have hhas := Has.watching (s := s) (.fetching p link) (links ++ [link])
      rwa [hlinks] at hhas
    | pausing p =>
      have hhas := Has.watching (s := s) (.pausing p) links
      rwa [← List.append_nil (links.map _)] at hhas
    | «over» r =>
      have hhas := Has.watching (s := s) (.over r) links
      rwa [← List.append_nil (links.map _)] at hhas
  | ended =>
    refine .over ⟨_, rfl, .inr ⟨links, ?_⟩⟩
    exact List.append_nil _
  | failed =>
    refine .over ⟨_, rfl, .inr ⟨links, ?_⟩⟩
    exact List.append_nil _

/-- A move of an attempt adds the request that the attempt goes on to. -/
theorem Move.has (hmove : Move unix a answer a' events) (hhas : a.Has s requests) :
    a'.Has s (requests ++ (a'.wait s).request?.toList) := by
  cases hmove with
  | sampled =>
    cases hhas
    exact .requesting _ _
  | unsampled =>
    cases hhas
    exact .over ⟨_, rfl, .inl rfl⟩
  | rejected =>
    cases hhas
    exact .over ⟨_, rfl, .inr ⟨[], rfl⟩⟩
  | posted ready postedAt initial hsettled =>
    cases hhas
    exact hsettled.has []
  | watched w _ hsettled =>
    cases hhas with
    | watching _ links => exact hsettled.has links

end Attempt

namespace User

variable {s : Settings} {m : Moment} {unix : Int × Int} {u u' u₁ : User} {answer : Answer}
  {entry : Entry} {current : List Request}

/-- Whether these are the requests of the attempt in flight, if there is one. -/
def HasRequested (s : Settings) (current : List Request) (u : User) : Prop :=
  match u.activity with
  | .attempting attempt => attempt.Has s current
  | _ => current = []

/-- A user that goes on before an attempt has requested what it goes on to. -/
theorem Begun.hasRequested {wall : Duration} (hbegun : Begun s wall u u') :
    u'.HasRequested s (u'.wait s).request?.toList := by
  cases hbegun with
  | finished => exact rfl
  | attempting => exact .sampling
  | dropping => exact rfl

/-- A user that arrives at its start has no attempt in flight. -/
theorem Arrives.eq_nil (harrives : u.Arrives s answer u₁) (hrequested : u.HasRequested s current) :
    current = [] := by
  cases harrives with
  | starting hactivity | connected hactivity =>
    simpa only [HasRequested, hactivity] using hrequested

/-- As long as no signal comes, a move adds the request that the user goes on to, or it ends the
attempt in flight. -/
theorem Move.hasRequested (hmove : Move s m unix u answer entry u') (hsignals : u.signals = 0)
    (hrequested : u.HasRequested s current) (hdropping : u.activity ≠ .dropping) :
    entry.result = none ∧ u'.HasRequested s (current ++ (u'.wait s).request?.toList) ∨
      entry.result.isSome = true ∧ IsAttempt s current ∧ (u'.wait s).request? = none ∧
        u'.HasRequested s [] := by
  cases hmove with
  | refused hactivity =>
    simp only [HasRequested, hactivity] at hrequested
    exact .inl ⟨rfl, by rw [hrequested]; rfl⟩
  | started harrives _ hbegun =>
    rw [harrives.eq_nil hrequested]
    exact .inl ⟨rfl, hbegun.hasRequested⟩
  | unstarted harrives =>
    rw [harrives.eq_nil hrequested]
    exact .inl ⟨rfl, rfl⟩
  | resumed hactivity hbegun =>
    simp only [HasRequested, hactivity] at hrequested
    rw [hrequested]
    exact .inl ⟨rfl, hbegun.hasRequested⟩
  | stopped _ hcause =>
    rcases hcause with ⟨_, hsignal⟩ | hactivity
    · omega
    · exact absurd hactivity hdropping
  | attempting hactivity hattempt =>
    simp only [HasRequested, hactivity] at hrequested
    exact .inl ⟨rfl, hattempt.has hrequested⟩
  | dropped _ _ _ hsignal => omega
  | ended hactivity hattempt hreflected =>
    simp only [HasRequested, hactivity] at hrequested
    have hhas := hattempt.has hrequested
    rw [show ((Attempt.over _).wait s).request?.toList = [] from rfl, List.append_nil] at hhas
    cases hhas with
    | «over» hwhole =>
      refine .inr ⟨rfl, hwhole, ?_⟩
      cases hreflected <;> exact ⟨rfl, rfl⟩

/-- What a move does to the attempts that a user has made. -/
theorem Move.attempts_eq (hmove : Move s m unix u answer entry u') :
    u'.attempts = u.attempts + entry.result.isSome.toNat := by
  cases hmove with
  | refused => rfl
  | started harrives _ hbegun => cases harrives <;> cases hbegun <;> rfl
  | unstarted harrives => cases harrives <;> rfl
  | resumed _ hbegun => cases hbegun <;> rfl
  | stopped => rfl
  | attempting => rfl
  | dropped => rfl
  | ended _ _ hreflected => cases hreflected <;> rfl

/-- A user could not connect behind a move that enters it so, and behind no other. -/
theorem Move.isUnconnected_eq (hmove : Move s m unix u answer entry u') :
    u'.isUnconnected = entry.refused := by
  cases hmove with
  | refused => rfl
  | started _ _ hbegun => cases hbegun <;> rfl
  | unstarted => rfl
  | resumed _ hbegun => cases hbegun <;> rfl
  | stopped => rfl
  | attempting => rfl
  | dropped => rfl
  | ended _ _ hreflected => cases hreflected <;> rfl

/-- A user that is not over is none that could not connect. -/
theorem isUnconnected_of_not_isOver (hover : u.isOver = false) : u.isUnconnected = false := by
  unfold isUnconnected
  split
  · simp only [isOver, *] at hover
    cases hover
  · rfl

end User

namespace Trial

variable {s : Settings} {t : Trial} {m : Moment} {answer : Answer}
  {history : List (Scene Trial TrialCue)}

/-- How an attempt ends in a scene, with the number of its user, if one does. -/
def endingIn (scene : Scene Trial TrialCue) : Option (Nat × Except TrialError Outcome) :=
  match scene.cue with
  | .answer (.user id) _ _ => (sceneEntry scene).result.map (id, ·)
  | _ => none

/-- How the attempts have ended that have, in order, each with the number of its user. -/
def endings (history : List (Scene Trial TrialCue)) : List (Nat × Except TrialError Outcome) :=
  history.filterMap endingIn

/-- The user whose connection is refused in a scene, if there is one. -/
def refusalIn (scene : Scene Trial TrialCue) : Option Nat :=
  match scene.cue with
  | .answer (.user id) _ (.refused _) => some id
  | _ => none

/-- The numbers of the users whose connections were refused, in order. -/
def refusals (history : List (Scene Trial TrialCue)) : List Nat := history.filterMap refusalIn

theorem endings_concat (history : List (Scene Trial TrialCue)) (scene : Scene Trial TrialCue) :
    endings (history ++ [scene]) = endings history ++ (endingIn scene).toList := by
  rw [endings, List.filterMap_append, endings]
  cases hending : endingIn scene <;> simp [hending]

theorem refusals_concat (history : List (Scene Trial TrialCue)) (scene : Scene Trial TrialCue) :
    refusals (history ++ [scene]) = refusals history ++ (refusalIn scene).toList := by
  rw [refusals, List.filterMap_append, refusals]
  cases hrefusal : refusalIn scene <;> simp [hrefusal]

/-- What a user has done along a history: how many of its attempts have ended, whether its
connection was refused, and which requests it has made. -/
structure Logged (s : Settings) (history : List (Scene Trial TrialCue)) (id : Nat) (u : User) :
    Prop where
  endings : (under id (endings history)).length = u.attempts
  refused : id ∈ refusals history ↔ u.isUnconnected = true
  requests : ∃ (attempts : List (List Request)) (current : List Request),
    under (.user id) (requests history) = attempts.flatten ++ current ∧
      attempts.length = u.attempts ∧ (∀ requests ∈ attempts, IsAttempt s requests) ∧
      u.HasRequested s current

/-- What a scene adds to what the users have done: an ending, a refusal and a request, if any, all
of one user. -/
structure Notes (id : Nat) (scene : Scene Trial TrialCue)
    (ending : Option (Except TrialError Outcome)) (refused : Bool) (request : Option Request) :
    Prop where
  ending : endingIn scene = ending.map (id, ·)
  refusal : refusalIn scene = if refused then some id else none
  request : requestIn scene = request.map (.user id, ·)

/-- A scene of another user leaves what a user has done as it is. -/
theorem Logged.concat_other {id other : Nat} {u : User} {scene : Scene Trial TrialCue}
    {ending : Option (Except TrialError Outcome)} {refused : Bool} {request : Option Request}
    (hlogged : Logged s history id u) (hne : other ≠ id)
    (hnotes : Notes other scene ending refused request) : Logged s (history ++ [scene]) id u where
  endings := by
    rw [endings_concat, under_append, hnotes.ending, under_of_ne hne, List.append_nil]
    exact hlogged.endings
  refused := by
    have hrefusal : id ∉ (refusalIn scene).toList := by
      rw [hnotes.refusal]
      cases refused
      · exact List.not_mem_nil
      · exact fun hmem => hne (List.mem_singleton.mp hmem).symm
    rw [refusals_concat, List.mem_append, or_iff_left hrefusal]
    exact hlogged.refused
  requests := by
    have hrole : Role.user other ≠ .user id := fun heq => hne (Role.user.inj heq)
    rw [requests_concat, under_append, hnotes.request, under_of_ne hrole, List.append_nil]
    exact hlogged.requests

/-- A scene of the coordinator leaves what a user has done as it is. -/
theorem Logged.concat_coordinator {id : Nat} {u : User} (hlogged : Logged s history id u) :
    Logged s (history ++ [⟨t, .answer .coordinator m answer⟩]) id u where
  endings := by
    rw [endings_concat, under_append]
    exact (congrArg List.length (List.append_nil _)).trans hlogged.endings
  refused := by
    rw [refusals_concat]
    exact (List.append_nil (refusals history)).symm ▸ hlogged.refused
  requests := by
    have hrole : Role.coordinator ≠ .user id := nofun
    rw [requests_concat, under_append, requestIn_coordinator rfl, under_of_ne hrole,
      List.append_nil]
    exact hlogged.requests

/-- A scene of a user that no signal has come to adds what the user does in it. -/
theorem Logged.concat_self {id : Nat} {u u' : User} {unix : Int × Int} {entry : Entry}
    {scene : Scene Trial TrialCue} (hlogged : Logged s history id u)
    (hmove : User.Move s m unix u answer entry u') (hsignals : u.signals = 0)
    (hdropping : u.activity ≠ .dropping) (hover : u.isOver = false)
    (hnotes : Notes id scene entry.result entry.refused (u'.wait s).request?) :
    Logged s (history ++ [scene]) id u' where
  endings := by
    rw [endings_concat, under_append, hnotes.ending, under_self, List.length_append,
      hlogged.endings, hmove.attempts_eq]
    cases entry.result <;> rfl
  refused := by
    have hbefore : id ∉ refusals history := by
      rw [hlogged.refused, User.isUnconnected_of_not_isOver hover]
      exact Bool.false_ne_true
    rw [refusals_concat, hnotes.refusal, List.mem_append, or_iff_right hbefore,
      hmove.isUnconnected_eq]
    cases entry.refused <;> simp
  requests := by
    obtain ⟨attempts, current, hrequests, hlength, hattempts, hrequested⟩ := hlogged.requests
    rw [requests_concat, under_append, hnotes.request, under_self, hrequests, hmove.attempts_eq,
      List.append_assoc]
    rcases hmove.hasRequested hsignals hrequested hdropping with
      ⟨hgoing, hrequested'⟩ | ⟨hended, hwhole, hnone, hrequested'⟩
    · refine ⟨attempts, _, rfl, ?_, hattempts, hrequested'⟩
      rw [hgoing, hlength]
      rfl
    · -- The attempt in flight has ended, so its requests are one more whole attempt.
      refine ⟨attempts ++ [current], [], ?_, ?_, ?_, hrequested'⟩
      · rw [hnone, Option.toList_none, List.flatten_append, List.flatten_singleton, List.append_nil,
          List.append_nil]
      · rw [List.length_append, hlength, hended]
        rfl
      · intro requests hmem
        rcases List.mem_append.mp hmem with hmem | hmem
        · exact hattempts requests hmem
        · exact List.mem_singleton.mp hmem ▸ hwhole

end Trial

end FleetTrial
