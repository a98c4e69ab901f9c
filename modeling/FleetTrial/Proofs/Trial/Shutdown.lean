import FleetTrial.Proofs.Trial.UserMoves

/-!
# Shutting a user down

From the first signal on a user requests nothing but what it has requested already. If that is
answered, the attempt in flight ends with the answer and is counted, or it is dropped where it would
go on to another request, and then it is not counted; a signal may just as well drop it before. So
each answer brings the user nearer to its end: at most three come behind a signal, for a user that
has missed signals may think once more and then finds out only in an attempt that it drops at once.
And as long as the user is not over it has something to go on with that is no answer of the control
plane.
-/

namespace FleetTrial

/-- What may come to a user that has its tally to itself. -/
inductive UserCue
  | answer (m : Moment) (answer : Answer)
  /-- A signal to shut down. -/
  | signal

namespace User

variable {s : Settings} {m : Moment} {unix : Int × Int} {u u' : User} {answer : Answer}
  {entry : Entry}

/-- A user at work: it gets what it waits for, and signals at any time. -/
def system (s : Settings) : System (Tally × User) UserCue where
  Allows w cue :=
    match cue with
    | .answer m answer => m.IsReadable ∧ w.2.Admits s answer
    | .signal => True
  perform cue w :=
    match cue with
    | .answer m answer => w.2.resume s m answer w.1
    | .signal => (w.1, w.2.signal)

/-- What a user enters in its tally in a scene. -/
def sceneEntry (s : Settings) (scene : Scene (Tally × User) UserCue) : Entry :=
  match scene.cue with
  | .answer m answer => scene.before.2.entry s m answer
  | .signal => .blank

/-- Whether a user is in an attempt that makes requests. -/
def IsAttempting (u : User) : Prop := ∃ attempt, u.activity = .attempting attempt

/-- Whether a user waits for the answer to a request. -/
def Requests (s : Settings) (u : User) : Prop := ∃ request, u.wait s = .reply request

/-- Whether a user goes on in a scene. -/
def IsAnswer (scene : Scene (Tally × User) UserCue) : Bool :=
  match scene.cue with
  | .answer _ _ => true
  | .signal => false

/-- How often a user goes on once a signal has come, at most. -/
def answersLeft (u : User) : Nat :=
  match u.activity with
  | .attempting _ => 3
  | .connecting _ | .starting | .thinking _ => 2
  | .dropping => 1
  | .finished | .unconnected _ | .crashed _ | .aborted => 0

/-- A user requests nothing outside of an attempt. -/
theorem Requests.isAttempting (hrequests : u.Requests s) : u.IsAttempting := by
  obtain ⟨request, hwait⟩ := hrequests
  unfold wait at hwait
  split at hwait
  · cases hwait
  · cases hwait
  · exact ⟨_, ‹_›⟩
  · cases hwait
  · cases hwait
  · cases hwait

/-- The moves of a user that a signal has come to. -/
inductive Winding (s : Settings) (u : User) : Entry → User → Prop
  | refused {address : String} (hactivity : u.activity = .connecting address) (e : TrialError) :
    Winding s u ⟨[], none, true⟩ { u with activity := .unconnected e }
  | turned {u' : User} (hidle : ¬u.IsAttempting) (hsignals : u'.signals = u.signals)
    (hnext : u'.activity = .finished ∨ u'.activity = .dropping)
    (hless : u'.answersLeft < u.answersLeft) : Winding s u .blank u'
  | dropped (hattempting : u.IsAttempting) (events : List Event) :
    Winding s u ⟨events, none, false⟩ (u.forwardAll events).finish
  | ended (hattempting : u.IsAttempting) {u' : User} (hsignals : u'.signals = u.signals)
    (hnext : u'.activity = .finished ∨ (∃ span, u'.activity = .thinking span) ∨
      ∃ crash, u'.activity = .crashed crash)
    (events : List Event) (result : Except TrialError Outcome) :
    Winding s u ⟨events, some result, false⟩ u'

/-- A user that a signal has come to does not begin an attempt. -/
theorem Begun.finish_or_dropping {wall : Duration} (hbegun : Begun s wall u u')
    (hsignals : 0 < u.signals) : u' = u.finish ∨ u' = { u with activity := .dropping } := by
  cases hbegun with
  | finished => exact .inl rfl
  | attempting _ hnone => omega
  | dropping => exact .inr rfl

/-- A user that begins behind a signal has one answer left at most. -/
theorem Begun.turned {wall : Duration} {u₁ : User} (hbegun : Begun s wall u₁ u')
    (hsignals : 0 < u.signals) (hkept : u₁.signals = u.signals) (hidle : ¬u.IsAttempting)
    (hleft : u.answersLeft = 2) : Winding s u .blank u' := by
  rcases hbegun.finish_or_dropping (hkept ▸ hsignals) with rfl | rfl
  · exact .turned hidle hkept (.inl rfl) (hleft ▸ Nat.zero_lt_two)
  · exact .turned hidle hkept (.inr rfl) (hleft ▸ Nat.one_lt_two)

/-- A user that a signal has come to winds its work up. -/
theorem Move.winding (hmove : Move s m unix u answer entry u') (hstaffed : s.IsStaffed)
    (hsignals : 0 < u.signals) : Winding s u entry u' := by
  cases hmove with
  | refused hactivity e => exact .refused hactivity e
  | @started _ u₁ _ target harrives _ hbegun =>
    have hkept : u₁.signals = u.signals := by cases harrives <;> rfl
    have hidle : ¬u.IsAttempting ∧ u.answersLeft = 2 := by
      unfold IsAttempting answersLeft
      cases harrives <;> simp only [*, reduceCtorEq, exists_false, not_false_eq_true, and_self]
    exact hbegun.turned hsignals hkept hidle.1 hidle.2
  | unstarted _ hcrash =>
    obtain ⟨target, htarget⟩ := hstaffed.attemptsOf_ok u.id
    rw [htarget] at hcrash
    cases hcrash
  | resumed hactivity hbegun =>
    have hidle : ¬u.IsAttempting ∧ u.answersLeft = 2 := by
      simp only [IsAttempting, answersLeft, hactivity, reduceCtorEq, exists_false,
        not_false_eq_true, and_self]
    exact hbegun.turned hsignals rfl hidle.1 hidle.2
  | stopped hinterruptible =>
    by_cases hattempting : u.IsAttempting
    · have hdropped := Winding.dropped (s := s) hattempting []
      rwa [forwardAll_nil] at hdropped
    · refine .turned hattempting rfl (.inl rfl) ?_
      have hleft : 0 < u.answersLeft := by
        rcases isInterruptible_cases hinterruptible with ⟨attempt, hactivity⟩ | hactivity |
          ⟨span, hactivity⟩ <;>
          simp only [answersLeft, hactivity, Nat.zero_lt_succ]
      exact hleft
  | attempting _ _ _ hnone => omega
  | dropped hactivity => exact .dropped ⟨_, hactivity⟩ _
  | ended hactivity _ hreflected =>
    cases hreflected with
    | finished =>
      refine .ended ⟨_, hactivity⟩ ?_ (.inl ?_) _ _
      · rfl
      · rfl
    | @thinking _ span _ =>
      refine .ended ⟨_, hactivity⟩ ?_ (.inr (.inl ⟨span, ?_⟩)) _ _
      · rfl
      · rfl
    | @crashed _ crash _ =>
      refine .ended ⟨_, hactivity⟩ ?_ (.inr (.inr ⟨crash, ?_⟩)) _ _
      · rfl
      · rfl

namespace Winding

variable (hwinding : Winding s u entry u')

include hwinding

/-- Winding up does not lose signals. -/
theorem signals_eq : u'.signals = u.signals := by
  cases hwinding with
  | refused => rfl
  | turned _ hsignals => exact hsignals
  | dropped => rfl
  | ended _ hsignals => exact hsignals

/-- Nobody is in an attempt behind a move. -/
theorem not_isAttempting : ¬u'.IsAttempting := by
  rintro ⟨attempt, hactivity⟩
  cases hwinding with
  | refused => cases hactivity
  | turned _ _ hnext =>
    rcases hnext with hnext | hnext <;> rw [hnext] at hactivity <;> cases hactivity
  | dropped => cases hactivity
  | ended _ _ hnext =>
    rcases hnext with hnext | ⟨_, hnext⟩ | ⟨_, hnext⟩ <;> rw [hnext] at hactivity <;>
      cases hactivity

/-- Only an attempt ends. -/
theorem result_eq_none (hidle : ¬u.IsAttempting) : entry.result = none := by
  cases hwinding with
  | ended hattempting => exact absurd hattempting hidle
  | _ => rfl

/-- Only an attempt publishes events, and only a user that could not connect is counted so. -/
theorem quiet (hidle : ¬u.IsAttempting) :
    entry.events = [] ∧ (u'.isUnconnected = false → entry = .blank) := by
  cases hwinding with
  | refused => exact ⟨rfl, fun hconnected => by cases hconnected⟩
  | turned => exact ⟨rfl, fun _ => rfl⟩
  | dropped hattempting => exact absurd hattempting hidle
  | ended hattempting => exact absurd hattempting hidle

/-- A user that could not connect makes no move. -/
theorem isUnconnected_eq_false : u.isUnconnected = false := by
  cases hwinding with
  | refused hactivity => simp only [isUnconnected, hactivity]
  | turned _ _ _ hless =>
    unfold isUnconnected
    split
    · rename_i hactivity
      simp only [answersLeft, hactivity, Nat.not_lt_zero] at hless
    · rfl
  | dropped hattempting | ended hattempting =>
    obtain ⟨attempt, hactivity⟩ := hattempting
    simp only [isUnconnected, hactivity]

/-- Each move takes one of the answers that are left. -/
theorem answersLeft_lt : u'.answersLeft < u.answersLeft := by
  cases hwinding with
  | refused hactivity =>
    simp only [answersLeft, hactivity]
    exact Nat.zero_lt_two
  | turned _ _ _ hless => exact hless
  | dropped hattempting =>
    obtain ⟨attempt, hactivity⟩ := hattempting
    simp only [answersLeft, finish, hactivity, Nat.zero_lt_succ]
  | ended hattempting _ hnext =>
    obtain ⟨attempt, hactivity⟩ := hattempting
    rcases hnext with hnext | ⟨span, hnext⟩ | ⟨crash, hnext⟩ <;>
      simp only [answersLeft, hactivity, hnext, Nat.zero_lt_succ, Nat.lt_succ_self]

end Winding

/-- The results of the attempts that end in some scenes. -/
def resultsIn (s : Settings) (history : List (Scene (Tally × User) UserCue)) :
    List (Except TrialError Outcome) := (history.map (sceneEntry s)).filterMap Entry.result

/-- What is known behind a signal that has come to `v`, when `history` has led to `w`. -/
structure Heeding (s : Settings) (v w : Tally × User)
    (history : List (Scene (Tally × User) UserCue)) : Prop where
  sane : w.2.IsSane s
  served : w.2.IsServed s
  signalled : 0 < w.2.signals
  entered : w.1 = v.1.enterAll (history.map (sceneEntry s))
  inFlight : w.2.IsAttempting →
    w.2.activity = v.2.activity ∧ w.2.attempts = v.2.attempts ∧ resultsIn s history = []
  requests : ∀ scene ∈ history, scene.before.2.Requests s →
    scene.before.2.activity = v.2.activity ∧ scene.before.2.attempts = v.2.attempts
  ended : ∃ ended : Option (Except TrialError Outcome),
    resultsIn s history = ended.toList ∧ (v.2.IsAttempting ∨ ended = none)
  quiet : ¬v.2.IsAttempting → ∀ scene ∈ history,
    (sceneEntry s scene).events = [] ∧ (w.2.isUnconnected = false → sceneEntry s scene = .blank)
  answers : history.countP IsAnswer + w.2.answersLeft ≤ 3

variable {v w : Tally × User} {history : List (Scene (Tally × User) UserCue)}

theorem resultsIn_concat (scene : Scene (Tally × User) UserCue) :
    resultsIn s (history ++ [scene]) =
      resultsIn s history ++ (sceneEntry s scene).result.toList := by
  unfold resultsIn
  rw [List.map_append, List.filterMap_append]
  cases hresult : (sceneEntry s scene).result <;> simp [hresult]

/-- Nothing but the request in flight is waited for in one more scene. -/
theorem Heeding.requests_concat (hheeding : Heeding s v w history) (cue : UserCue) :
    ∀ scene ∈ history ++ [⟨w, cue⟩], scene.before.2.Requests s →
      scene.before.2.activity = v.2.activity ∧ scene.before.2.attempts = v.2.attempts := by
  intro scene hscene hrequests
  rcases List.mem_append.mp hscene with hold | hnew
  · exact hheeding.requests scene hold hrequests
  · cases List.mem_singleton.mp hnew
    obtain ⟨hactivity, hattempts, _⟩ := hheeding.inFlight hrequests.isAttempting
    exact ⟨hactivity, hattempts⟩

/-- One more signal changes nothing. -/
theorem Heeding.signal (hheeding : Heeding s v w history) :
    Heeding s v (w.1, w.2.signal) (history ++ [⟨w, .signal⟩]) where
  sane := hheeding.sane
  served := hheeding.served
  signalled := Nat.succ_pos _
  entered := by
    rw [List.map_append, List.map_singleton, Tally.enterAll_concat, ← hheeding.entered]
    rfl
  inFlight hattempting := by
    rw [resultsIn_concat]
    obtain ⟨hactivity, hattempts, hresults⟩ := hheeding.inFlight hattempting
    exact ⟨hactivity, hattempts, by rw [hresults]; rfl⟩
  requests := hheeding.requests_concat .signal
  ended := by
    rw [resultsIn_concat]
    obtain ⟨ended, hresults, hv⟩ := hheeding.ended
    exact ⟨ended, by rw [hresults]; exact List.append_nil _, hv⟩
  quiet hv scene hscene := by
    rcases List.mem_append.mp hscene with hold | hnew
    · exact hheeding.quiet hv scene hold
    · cases List.mem_singleton.mp hnew
      exact ⟨rfl, fun _ => rfl⟩
  answers := by
    rw [List.countP_append]
    exact hheeding.answers

/-- Whatever comes to a user, it goes on heeding the signal. -/
theorem Heeding.resume (hheeding : Heeding s v w history) (hstaffed : s.IsStaffed)
    (hreadable : m.IsReadable) (hadmits : w.2.Admits s answer) :
    Heeding s v (w.2.resume s m answer w.1) (history ++ [⟨w, .answer m answer⟩]) := by
  obtain ⟨unix, hunix⟩ := hreadable
  obtain ⟨hentered, hmove⟩ := hheeding.sane.1.move_resume hunix hadmits w.1
  have hsane := hmove.isSane hstaffed hheeding.sane
  have hserved := hmove.isServed hheeding.served
  have hwinding := hmove.winding hstaffed hheeding.signalled
  revert hentered hwinding hsane hserved
  generalize w.2.resume s m answer w.1 = next
  intro hentered hsane hserved hwinding
  have hidle (hv : ¬v.2.IsAttempting) : ¬w.2.IsAttempting := by
    rintro ⟨attempt, hactivity⟩
    exact hv ⟨attempt, (hheeding.inFlight ⟨attempt, hactivity⟩).1 ▸ hactivity⟩
  constructor
  case sane => exact hsane
  case served => exact hserved
  case signalled => rw [hwinding.signals_eq]; exact hheeding.signalled
  case entered =>
    rw [List.map_append, List.map_singleton, Tally.enterAll_concat, ← hheeding.entered]
    exact hentered
  case inFlight => exact fun hattempting => absurd hattempting hwinding.not_isAttempting
  case requests => exact hheeding.requests_concat (.answer m answer)
  case ended =>
    rw [resultsIn_concat]
    by_cases hw : w.2.IsAttempting
    · obtain ⟨_, _, hresults⟩ := hheeding.inFlight hw
      have hv : v.2.IsAttempting := Classical.byContradiction fun hv => hidle hv hw
      exact ⟨_, by rw [hresults]; rfl, .inl hv⟩
    · obtain ⟨ended, hresults, hv⟩ := hheeding.ended
      refine ⟨ended, ?_, hv⟩
      have hresult : (sceneEntry s ⟨w, .answer m answer⟩).result = none :=
        hwinding.result_eq_none hw
      rw [hresults, hresult]
      exact List.append_nil _
  case quiet =>
    intro hv scene hscene
    rcases List.mem_append.mp hscene with hold | hnew
    · obtain ⟨hevents, hblank⟩ := hheeding.quiet hv scene hold
      exact ⟨hevents, fun _ => hblank hwinding.isUnconnected_eq_false⟩
    · cases List.mem_singleton.mp hnew
      exact hwinding.quiet (hidle hv)
  case answers =>
    have hbefore := hheeding.answers
    have hless := hwinding.answersLeft_lt
    have hanswer : [(⟨w, .answer m answer⟩ : Scene (Tally × User) UserCue)].countP IsAnswer = 1 :=
      rfl
    rw [List.countP_append, hanswer]
    omega

end User

end FleetTrial
