import FleetTrial.Proofs.Allocation.AttemptMoves
import FleetTrial.Proofs.Settings.Soundness
import FleetTrial.Proofs.Trial.Ledger
import FleetTrial.Proofs.Trial.Wiring

/-!
# The moves of a user

Whatever comes to a user, it makes one of eight moves: it finds nobody to connect to, it starts, it
cannot start, it goes on behind a pause, it stops for a signal, it goes on with an attempt, it drops
an attempt that has taken in an answer together with a signal, or it counts an attempt that has
ended. Each move says all that it changes, so that nothing else has to look into what a user does.
-/

namespace FleetTrial

namespace User

variable {s : Settings} {m : Moment} {unix : Int × Int} {tally : Tally} {u u' u₁ : User}
  {answer : Answer} {entry : Entry}

/-- What may come to a user: an answer to its wait, or the interruption by a signal. -/
inductive Admits (s : Settings) (u : User) : Answer → Prop
  | answered {answer : Answer} (hadmits : (u.wait s).Admits answer) : Admits s u answer
  | interrupted (hinterrupted : u.isInterrupted = true) : Admits s u .interrupted

/-- A user that has opened its connection and put it on its bus. -/
def linked (s : Settings) (u : User) : User :=
  { u with
    bus := (u.bus.subscribe .forwarder).1
    registration := some (u.bus.subscribe .forwarder).2
    handle := some (Forwarder.connect s.metrics.space) }

/-- How a user comes to its start: it was about to start, or it has just opened its connection. -/
inductive Arrives (s : Settings) (u : User) : Answer → User → Prop
  | starting (hactivity : u.activity = .starting) : Arrives s u .go u
  | connected {address : String} (hactivity : u.activity = .connecting address) :
    Arrives s u .connected (u.linked s)

/-- How a user goes on before an attempt: it finishes if its work is over or if it finds a signal,
it begins the attempt if there is none, and it begins it in vain if it has missed signals. -/
inductive Begun (s : Settings) (wall : Duration) (u : User) : User → Prop
  | finished (hend : u.isDone s wall = true ∨ u.signals = 1) : Begun s wall u u.finish
  | attempting (hdone : u.isDone s wall = false) (hsignals : u.signals = 0) :
    Begun s wall u { u with activity := .attempting .sampling }
  | dropping (hdone : u.isDone s wall = false) (hsignals : 1 < u.signals) :
    Begun s wall u { u with activity := .dropping }

/-- How a user goes on behind an attempt. -/
inductive Reflected (s : Settings) (m : Moment) (u : User) : User → Prop
  | finished (hdone : u.isDone s m.wall = true) : Reflected s m u u.finish
  | thinking (hdone : u.isDone s m.wall = false) {span : Duration}
    (hspan : thinkTime s m.chance = .ok span) :
    Reflected s m u { u with activity := .thinking span }
  | crashed (hdone : u.isDone s m.wall = false) {crash : Crash}
    (hcrash : thinkTime s m.chance = .error crash) :
    Reflected s m u { u with activity := .crashed crash }

/-- The moves of a user: the answer it gets, what it enters in the tally and what becomes of it. -/
inductive Move (s : Settings) (m : Moment) (unix : Int × Int) (u : User) :
    Answer → Entry → User → Prop
  | refused {address : String} (hactivity : u.activity = .connecting address) (e : TrialError) :
    Move s m unix u (.refused e) ⟨[], none, true⟩ { u with activity := .unconnected e }
  | started {answer : Answer} {u₁ u' : User} {target : Option Nat}
    (harrives : u.Arrives s answer u₁) (htarget : s.attemptsOf u.id = .ok target)
    (hbegun : Begun s m.wall { u₁ with target, startedAt := m.wall } u') :
    Move s m unix u answer .blank u'
  | unstarted {answer : Answer} {u₁ : User} {crash : Crash} (harrives : u.Arrives s answer u₁)
    (hcrash : s.attemptsOf u.id = .error crash) :
    Move s m unix u answer .blank { u₁ with activity := .crashed crash }
  | resumed {span : Duration} {u' : User} (hactivity : u.activity = .thinking span)
    (hbegun : Begun s m.wall u u') : Move s m unix u .go .blank u'
  | stopped {answer : Answer} (hinterruptible : u.isInterruptible = true)
    (hcause : answer = .interrupted ∧ 0 < u.signals ∨ u.activity = .dropping) :
    Move s m unix u answer .blank u.finish
  | attempting {answer : Answer} {attempt attempt' : Attempt} {events : List Event}
    (hactivity : u.activity = .attempting attempt)
    (hmove : Attempt.Move unix attempt answer attempt' events)
    (hgoing : attempt'.result? = none) (hsignals : u.signals = 0)
    (hresume : attempt.resume s m answer = (attempt', events)) :
    Move s m unix u answer ⟨events, none, false⟩
      { u.forwardAll events with activity := .attempting attempt' }
  | dropped {answer : Answer} {attempt attempt' : Attempt} {events : List Event}
    (hactivity : u.activity = .attempting attempt)
    (hmove : Attempt.Move unix attempt answer attempt' events)
    (hgoing : attempt'.result? = none) (hsignals : 0 < u.signals)
    (hresume : attempt.resume s m answer = (attempt', events)) :
    Move s m unix u answer ⟨events, none, false⟩ (u.forwardAll events).finish
  | ended {answer : Answer} {attempt : Attempt} {result : Except TrialError Outcome}
    {events : List Event} {u' : User} (hactivity : u.activity = .attempting attempt)
    (hmove : Attempt.Move unix attempt answer (.over result) events)
    (hreflected : Reflected s m { u.forwardAll events with attempts := u.attempts + 1 } u')
    (hresume : attempt.resume s m answer = (.over result, events)) :
    Move s m unix u answer ⟨events, some result, false⟩ u'

/-- Whether a user could not connect, so that its work was never begun. -/
def isUnconnected (u : User) : Bool :=
  match u.activity with
  | .unconnected _ => true
  | _ => false

/-- What is known of the wiring of a user by what it is doing. -/
def IsKept (u : User) : Prop :=
  match u.activity with
  | .connecting _ => u.IsBare
  | .starting | .attempting _ | .dropping | .thinking _ => u.IsWired
  | .finished => u.IsTornDown
  | .unconnected _ | .crashed _ | .aborted => True

/-- A user that goes on before an attempt has begun it or finished. -/
theorem begun_proceed : Begun s m.wall u (u.proceed s m) := by
  unfold proceed
  split
  · exact .finished (.inl ‹_›)
  rename_i hdone
  rw [Bool.not_eq_true] at hdone
  split
  · exact .attempting hdone ‹_›
  split
  · exact .finished (.inr ‹_›)
  · exact .dropping hdone (by omega)

/-- A user that has made an attempt thinks or finishes, or it finds no think time. -/
theorem reflected_reflect : Reflected s m u (u.reflect s m) := by
  unfold reflect
  split
  · exact .finished ‹_›
  rename_i hdone
  rw [Bool.not_eq_true] at hdone
  split
  · exact .crashed hdone ‹_›
  · exact .thinking hdone ‹_›

/-- A user that arrives at its start makes a move. -/
theorem Arrives.move (harrives : u.Arrives s answer u₁) :
    Move s m unix u answer .blank (u₁.start s m) := by
  have hid : u₁.id = u.id := by cases harrives <;> rfl
  unfold start
  split
  · exact .unstarted harrives (hid ▸ ‹_›)
  · exact .started harrives (hid ▸ ‹_›) begun_proceed

/-- A wired user that gets what its attempt waits for makes a move, and enters it. -/
theorem IsWired.move_advance (hwired : u.IsWired) {attempt : Attempt}
    (hactivity : u.activity = .attempting attempt) (hunix : m.Shows unix)
    (hadmits : (attempt.wait s).Admits answer) :
    (u.advance s m answer attempt tally).1 = tally.enter (u.entry s m answer) ∧
      Move s m unix u answer (u.entry s m answer) (u.advance s m answer attempt tally).2 := by
  have hentry : u.entry s m answer =
      ⟨(attempt.resume s m answer).2, (attempt.resume s m answer).1.result?, false⟩ := by
    unfold entry
    rw [hactivity]
    cases answer with
    | interrupted => exact absurd rfl hadmits.ordinary.1
    | _ => rfl
  have hmove := Attempt.move_resume hunix hadmits
  rw [hentry]
  revert hmove
  unfold advance
  generalize hresume : attempt.resume s m answer = next
  obtain ⟨attempt', events⟩ := next
  intro hmove
  simp only [hwired.publishAll_eq]
  split
  · exact ⟨rfl, .ended hactivity hmove reflected_reflect hresume⟩
  · rename_i crash
    cases hmove with
    | posted _ _ _ hsettled | watched _ _ hsettled => cases hsettled
  · rename_i hover _
    have hgoing : attempt'.result? = none := by
      unfold Attempt.result?
      split
      · exact absurd rfl (hover _)
      · rfl
    rw [hgoing]
    split
    · exact ⟨rfl, .dropped hactivity hmove hgoing ‹_› hresume⟩
    · exact ⟨rfl, .attempting hactivity hmove hgoing (Nat.eq_zero_of_not_pos ‹_›) hresume⟩

/-- A signal may end an attempt or a think time. -/
theorem isInterruptible_cases (hinterruptible : u.isInterruptible = true) :
    (∃ attempt, u.activity = .attempting attempt) ∨ u.activity = .dropping ∨
      ∃ span, u.activity = .thinking span := by
  unfold isInterruptible at hinterruptible
  split at hinterruptible
  · exact .inl ⟨_, ‹_›⟩
  · exact .inr (.inl ‹_›)
  · exact .inr (.inr ⟨_, ‹_›⟩)
  · cases hinterruptible

/-- A user that a signal interrupts finishes, and enters nothing. -/
theorem resume_interrupted (hinterruptible : u.isInterruptible = true) (tally : Tally) :
    u.resume s m .interrupted tally = (tally, u.finish) ∧ u.entry s m .interrupted = .blank := by
  unfold resume entry
  rcases isInterruptible_cases hinterruptible with ⟨attempt, hactivity⟩ | hactivity |
    ⟨span, hactivity⟩ <;>
    simp only [hactivity, and_self]

/-- A user that a signal interrupts makes a move. -/
theorem move_interrupted (hinterrupted : u.isInterrupted = true) :
    (u.resume s m .interrupted tally).1 = tally.enter (u.entry s m .interrupted) ∧
      Move s m unix u .interrupted (u.entry s m .interrupted)
        (u.resume s m .interrupted tally).2 := by
  obtain ⟨hinterruptible, hsignals⟩ := Bool.and_eq_true_iff.mp hinterrupted
  rw [(resume_interrupted hinterruptible tally).1, (resume_interrupted hinterruptible tally).2]
  exact ⟨rfl, .stopped hinterruptible (.inl ⟨rfl, of_decide_eq_true hsignals⟩)⟩

/-- Whatever comes to a user, it makes one of its moves and enters it in the tally. -/
theorem IsKept.move_resume (hkept : u.IsKept) (hunix : m.Shows unix)
    (hadmits : u.Admits s answer) (tally : Tally) :
    (u.resume s m answer tally).1 = tally.enter (u.entry s m answer) ∧
      Move s m unix u answer (u.entry s m answer) (u.resume s m answer tally).2 := by
  cases hadmits with
  | interrupted hinterrupted => exact move_interrupted hinterrupted
  | answered hadmits =>
    cases hactivity : u.activity with
    | connecting address =>
      simp only [wait, hactivity] at hadmits
      cases hadmits with
      | connected =>
        simp only [resume, entry, hactivity]
        exact ⟨rfl, Arrives.move (.connected hactivity)⟩
      | refused _ e =>
        simp only [resume, entry, hactivity]
        exact ⟨rfl, .refused hactivity e⟩
    | starting =>
      simp only [wait, hactivity] at hadmits
      cases hadmits
      simp only [resume, entry, hactivity]
      exact ⟨rfl, Arrives.move (.starting hactivity)⟩
    | attempting attempt =>
      simp only [wait, hactivity] at hadmits
      simp only [IsKept, hactivity] at hkept
      have hresume : u.resume s m answer tally = u.advance s m answer attempt tally := by
        unfold resume
        rw [hactivity]
        cases answer with
        | interrupted => exact absurd rfl hadmits.ordinary.1
        | _ => rfl
      rw [hresume]
      exact hkept.move_advance hactivity hunix hadmits
    | dropping =>
      simp only [resume, entry, hactivity]
      exact ⟨rfl, .stopped (by simp only [isInterruptible, hactivity]) (.inr hactivity)⟩
    | thinking span =>
      simp only [wait, hactivity] at hadmits
      cases hadmits
      simp only [resume, entry, hactivity]
      exact ⟨rfl, .resumed hactivity begun_proceed⟩
    | finished | unconnected | crashed | aborted =>
      simp only [wait, hactivity] at hadmits
      cases hadmits

/-- A user that opens its connection is linked to it. -/
theorem IsBare.isLinked (hbare : u.IsBare) : (u.linked s).IsLinked := by
  obtain ⟨hbus, _, _, hreleased⟩ := hbare
  simp only [IsLinked, linked, hbus]
  exact ⟨rfl, rfl, hreleased, _, rfl, rfl⟩

/-- A user that arrives at its start is wired. -/
theorem Arrives.isWired (harrives : u.Arrives s answer u₁) (hkept : u.IsKept) : u₁.IsWired := by
  cases harrives with
  | starting hactivity => simpa only [IsKept, hactivity] using hkept
  | connected hactivity =>
    simp only [IsKept, hactivity] at hkept
    exact .inr hkept.isLinked

/-- How a user begins an attempt or ends its work leaves it known how it is wired. -/
theorem Begun.isKept {wall : Duration} (hbegun : Begun s wall u u') (hwired : u.IsWired) :
    u'.IsKept := by
  cases hbegun with
  | finished => exact hwired.isTornDown_tearDown
  | attempting => exact hwired
  | dropping => exact hwired

/-- A move leaves it known how a user is wired. -/
theorem Move.isKept (hmove : Move s m unix u answer entry u') (hkept : u.IsKept) :
    u'.IsKept := by
  cases hmove with
  | refused => trivial
  | started harrives _ hbegun => exact hbegun.isKept (harrives.isWired hkept)
  | unstarted => trivial
  | resumed hactivity hbegun =>
    simp only [IsKept, hactivity] at hkept
    exact hbegun.isKept hkept
  | stopped hinterruptible _ =>
    have hwired : u.IsWired := by
      rcases isInterruptible_cases hinterruptible with ⟨attempt, hactivity⟩ | hactivity |
        ⟨span, hactivity⟩ <;>
        simpa only [IsKept, hactivity] using hkept
    exact hwired.isTornDown_tearDown
  | attempting hactivity =>
    simp only [IsKept, hactivity] at hkept
    exact hkept.forwardAll _
  | dropped hactivity =>
    simp only [IsKept, hactivity] at hkept
    exact (hkept.forwardAll _).isTornDown_tearDown
  | @ended _ _ _ events _ hactivity _ hreflected =>
    simp only [IsKept, hactivity] at hkept
    have hwired := hkept.forwardAll events
    cases hreflected with
    | finished => exact IsWired.isTornDown_tearDown hwired
    | thinking => exact hwired
    | crashed => trivial

/-- Whether a user has a connection, or has had one, just if there is a collector; a user that has
not connected has one to connect to. -/
def IsServed (s : Settings) (u : User) : Prop :=
  match u.activity with
  | .connecting address => s.metrics.collector = some address
  | .unconnected _ => True
  | _ => u.forwarder.isSome = s.metrics.collector.isSome

/-- A user that arrives at its start has a connection just if there is a collector. -/
theorem Arrives.isSome_forwarder (harrives : u.Arrives s answer u₁) (hserved : u.IsServed s) :
    u₁.forwarder.isSome = s.metrics.collector.isSome := by
  cases harrives with
  | starting hactivity => simpa only [IsServed, hactivity] using hserved
  | connected hactivity =>
    simp only [IsServed, hactivity] at hserved
    rw [hserved]
    rfl

/-- Beginning an attempt or ending its work leaves a user served. -/
theorem Begun.isServed {wall : Duration} (hbegun : Begun s wall u u')
    (hforwarder : u.forwarder.isSome = s.metrics.collector.isSome) : u'.IsServed s := by
  cases hbegun with
  | finished => exact (isSome_forwarder_tearDown u).trans hforwarder
  | attempting => exact hforwarder
  | dropping => exact hforwarder

/-- A move leaves a user served. -/
theorem Move.isServed (hmove : Move s m unix u answer entry u') (hserved : u.IsServed s) :
    u'.IsServed s := by
  cases hmove with
  | refused => trivial
  | started harrives _ hbegun => exact hbegun.isServed (harrives.isSome_forwarder hserved)
  | unstarted harrives => exact harrives.isSome_forwarder hserved
  | resumed hactivity hbegun =>
    simp only [IsServed, hactivity] at hserved
    exact hbegun.isServed hserved
  | stopped hinterruptible _ =>
    have hforwarder : u.forwarder.isSome = s.metrics.collector.isSome := by
      rcases isInterruptible_cases hinterruptible with ⟨attempt, hactivity⟩ | hactivity |
        ⟨span, hactivity⟩ <;>
        simpa only [IsServed, hactivity] using hserved
    exact (isSome_forwarder_tearDown u).trans hforwarder
  | attempting hactivity =>
    simp only [IsServed, hactivity] at hserved
    exact (isSome_forwarder_forwardAll _ u).trans hserved
  | dropped hactivity =>
    simp only [IsServed, hactivity] at hserved
    exact (isSome_forwarder_tearDown _).trans ((isSome_forwarder_forwardAll _ u).trans hserved)
  | @ended _ _ _ events _ hactivity _ hreflected =>
    simp only [IsServed, hactivity] at hserved
    have hforwarder := (isSome_forwarder_forwardAll events u).trans hserved
    cases hreflected with
    | finished => exact (isSome_forwarder_tearDown _).trans hforwarder
    | thinking => exact hforwarder
    | crashed => exact hforwarder

/-- A move leaves a user its number. -/
theorem Move.id_eq (hmove : Move s m unix u answer entry u') : u'.id = u.id := by
  cases hmove with
  | refused => rfl
  | started harrives _ hbegun => cases harrives <;> cases hbegun <;> rfl
  | unstarted harrives => cases harrives <;> rfl
  | resumed _ hbegun => cases hbegun <;> rfl
  | stopped => rfl
  | attempting => rfl
  | dropped => rfl
  | ended _ _ hreflected => cases hreflected <;> rfl

/-- Nothing comes to a user that is over. -/
theorem Admits.isOver_eq_false (hadmits : u.Admits s answer) : u.isOver = false := by
  cases hactivity : u.activity with
  | finished | unconnected | crashed | aborted =>
    cases hadmits with
    | answered hanswer =>
      simp only [wait, hactivity] at hanswer
      cases hanswer
    | interrupted hinterrupted =>
      simp [isInterrupted, isInterruptible, hactivity] at hinterrupted
  | connecting | starting | attempting | dropping | thinking => simp only [isOver, hactivity]

/-- Whether a user is wired as it should be, has not been cut off, and has crashed on nothing but a
draw. -/
def IsSane (s : Settings) (u : User) : Prop :=
  u.IsKept ∧ (∀ crash, u.activity = .crashed crash → s.Misdraws crash) ∧ u.activity ≠ .aborted

/-- A user that has done nothing yet is sane. -/
theorem isSane_create (s : Settings) (id : Nat) : (create s id).IsSane s := by
  unfold IsSane IsKept create
  cases s.metrics.collector with
  | none => exact ⟨.inl ⟨rfl, rfl, rfl, rfl⟩, nofun, nofun⟩
  | some address => exact ⟨⟨rfl, rfl, rfl, rfl⟩, nofun, nofun⟩

/-- With users, and the bounds of their think time in order, a move leaves a user sane. -/
theorem Move.isSane (hmove : Move s m unix u answer entry u') (hstaffed : s.IsStaffed)
    (hsane : u.IsSane s) : u'.IsSane s := by
  refine ⟨hmove.isKept hsane.1, ?_⟩
  cases hmove with
  | refused => exact ⟨nofun, nofun⟩
  | started _ _ hbegun => cases hbegun <;> exact ⟨nofun, nofun⟩
  | unstarted _ hcrash =>
    obtain ⟨target, htarget⟩ := hstaffed.attemptsOf_ok u.id
    rw [htarget] at hcrash
    cases hcrash
  | resumed _ hbegun => cases hbegun <;> exact ⟨nofun, nofun⟩
  | stopped => exact ⟨nofun, nofun⟩
  | attempting => exact ⟨nofun, nofun⟩
  | dropped => exact ⟨nofun, nofun⟩
  | ended _ _ hreflected =>
    cases hreflected with
    | finished => exact ⟨nofun, nofun⟩
    | thinking => exact ⟨nofun, nofun⟩
    | crashed _ hcrash =>
      refine ⟨?_, nofun⟩
      rintro _ ⟨⟩
      exact Settings.thinkTime_eq_error_iff.mp hcrash

/-- Whether a user has not crashed. -/
def IsUncrashed (u : User) : Prop := ∀ crash, u.activity ≠ .crashed crash

/-- With sound settings a sane user has not crashed. -/
theorem IsSane.isUncrashed (hsane : u.IsSane s) (hsound : s.IsSound) : u.IsUncrashed :=
  fun crash hcrashed => hsound.not_misdraws crash (hsane.2.1 crash hcrashed)

/-- Cutting a user off leaves it known how it is wired. -/
theorem IsKept.abort (hkept : u.IsKept) : u.abort.IsKept := by
  unfold User.abort
  split
  · exact hkept
  · trivial

/-- A user that has been cut off is over. -/
theorem isOver_abort (u : User) : u.abort.isOver = true := by
  unfold abort
  split
  · assumption
  · rfl

/-- Cutting a user off leaves it its number. -/
theorem id_abort (u : User) : u.abort.id = u.id := by
  unfold abort
  split <;> rfl

end User

end FleetTrial
