import FleetTrial.Measurement.Report
import FleetTrial.Proofs.CommandLine.Range
import FleetTrial.Proofs.Settings.Soundness
import FleetTrial.Trial.Basic
import Mathlib.Data.List.Forall2

/-!
# Accepted settings

A command line is accepted if its arguments can be read, make settings, and these pass their
check. Later on nothing looks again at what was checked then: shares are divided out, addresses and
headers taken apart, think times drawn and durations added up as if none of it could fail. With
accepted settings none of it does.
-/

namespace FleetTrial

/-- Whether settings are those that a command line asks for, and have passed their check. -/
def Settings.IsAccepted (s : Settings) (line : List String) : Prop :=
  ∃ given host, CommandLine.read line = .ok (given, host) ∧ checkedSettings given host = .ok s

/-- Whether a header is written as a name and a value: its first colon stands between them, and the
blanks around both do not count. -/
def IsWrittenAs (header : String) (pair : String × String) : Prop :=
  ∃ name value, header.toList = name ++ ':' :: value ∧ ':' ∉ name ∧
    pair = (String.ofList (Text.trim name), String.ofList (Text.trim value))

/-- Headers pass their check exactly if all of them have a colon. -/
theorem checkHeaders_eq_ok_iff {headers : List String} :
    checkHeaders headers = .ok () ↔ ∀ header ∈ headers, ':' ∈ header.toList := by
  have hnone : (headers.find? fun header => !header.toList.contains ':') = none ↔
      ∀ header ∈ headers, ':' ∈ header.toList := by
    simp
  rw [← hnone]
  unfold checkHeaders
  split
  · rename_i hfind
    exact iff_of_true rfl hfind
  · rename_i hfind
    exact iff_of_false nofun (by rw [hfind]; nofun)

/-- Headers that all have a colon are split one by one. -/
theorem exists_splitHeaders {headers : List String} (hcheck : checkHeaders headers = .ok ()) :
    ∃ pairs, splitHeaders headers = .ok pairs ∧ List.Forall₂ IsWrittenAs headers pairs := by
  have hcolons := checkHeaders_eq_ok_iff.mp hcheck
  clear hcheck
  induction headers with
  | nil => exact ⟨[], rfl, .nil⟩
  | cons header rest ih =>
    obtain ⟨pairs, hpairs, hwritten⟩ :=
      ih fun other hother => hcolons other (List.mem_cons_of_mem header hother)
    cases hsplit : Text.splitFirst ':' header.toList with
    | none =>
      have hcolon := hcolons header List.mem_cons_self
      exact absurd hcolon (Text.splitFirst_eq_none_iff.mp hsplit)
    | some parts =>
      obtain ⟨name, value⟩ := parts
      obtain ⟨htext, hname⟩ := Text.eq_of_splitFirst hsplit
      refine ⟨(String.ofList (Text.trim name), String.ofList (Text.trim value)) :: pairs, ?_,
        .cons ⟨name, value, htext, hname, rfl⟩ hwritten⟩
      simp only [splitHeaders, splitHeader, hsplit, hpairs, Option.map_some, Except.map]

/-- A duration that may be absent is there if it is written, and fits a word of milliseconds. -/
theorem Arguments.isSome_of_readOptional {text : Option String} {d : Option Duration}
    (hread : readOptional text = .ok d) :
    d.isSome = text.isSome ∧ ∀ span ∈ d, span.millis ≤ Text.maxWord64 := by
  cases text with
  | none =>
    cases hread
    exact ⟨rfl, nofun⟩
  | some text =>
    obtain ⟨span, hspan, rfl⟩ := ok_of_map_eq_ok hread
    refine ⟨rfl, fun other hother => ?_⟩
    cases hother
    exact millis_le_of_readDuration hspan

/-- A span that fits a word of milliseconds has room for the grace period in a word of seconds. -/
theorem Duration.secs_add_gracePeriod_le {d : Duration} (hd : d.millis ≤ Text.maxWord64) :
    (d + gracePeriod).secs ≤ Text.maxWord64 := by
  have hword : Text.maxWord64 = 18446744073709551615 := by decide
  have hsum : (d + gracePeriod).secs = (d.nanos + 30000000000) / 1000000000 := rfl
  rw [hsum]
  unfold Duration.millis at hd
  rw [hword] at hd ⊢
  omega

namespace Settings

variable {s : Settings} {line : List String}

/-- Whether nothing that is worked out from settings later on can fail. -/
structure IsFit (s : Settings) : Prop where
  /-- The control plane has an http or https address, every custom header is a name and a value, and
  there is a client for them. -/
  client : ∃ address headers, Url.Address.parse s.target.url = .ok address ∧
    (address.schemeText = "http" ∨ address.schemeText = "https") ∧
    s.customHeaders = .ok headers ∧ List.Forall₂ IsWrittenAs s.target.headers headers ∧
    Http.Client.ofSettings s = .ok ⟨address, headers⟩
  /-- Either some time ends the work, to which the grace period can be added, or a number of
  attempts does that has one for each user. -/
  extent : (∃ d, s.extent = ⟨some d, none⟩ ∧ 0 < d.nanos ∧
      (d + gracePeriod).secs ≤ Text.maxWord64) ∨
    ∃ n, s.extent = ⟨none, some n⟩ ∧ s.crowd.users ≤ n ∧ n ≤ Text.maxWord64
  /-- Every user finds its share of the attempts; those of this trial find at least one. -/
  shares : s.crowd.users ≠ 0 ∧ ∀ id, ∃ share, s.attemptsOf id = .ok share ∧
    share.isSome = s.extent.attempts.isSome ∧ (id < s.crowd.users → ∀ n ∈ share, 1 ≤ n)
  /-- The shares can be told in words. -/
  perUser : ∃ text, s.attemptsPerUser = .ok text
  summary : ∃ text, s.summary = .ok text
  /-- There is a report on every tally whose attempts can be added up. -/
  report : ∀ elapsed tally, (∃ text, Report.ofTrial s elapsed tally = .ok text) ↔
    tally.completed.toNat + tally.failed.toNat ≤ Text.maxWord64
  /-- The bounds of the think time are words of milliseconds in their order, and whatever is drawn
  lies between them. -/
  thinkTime : (UInt64.ofNat s.crowd.minWait.millis).toNat = s.crowd.minWait.millis ∧
    (UInt64.ofNat s.crowd.maxWait.millis).toNat = s.crowd.maxWait.millis ∧
    s.crowd.minWait.millis ≤ s.crowd.maxWait.millis ∧
    ∀ chance, ∃ span, User.thinkTime s chance = .ok span ∧
      s.crowd.minWait.millis ≤ span.millis ∧ span.millis ≤ s.crowd.maxWait.millis
  /-- Every deadline leaves some time. -/
  deadlines : (∀ d ∈ s.polling.allocationDeadline, 0 < d.nanos) ∧
    ∀ d ∈ s.polling.scaleDeadline, 0 < d.nanos

/-- A control plane that has passed its check has an http or https address. -/
theorem scheme_of_check (hcheck : s.target.check = .ok ()) :
    ∃ address, Url.Address.parse s.target.url = .ok address ∧
      (address.schemeText = "http" ∨ address.schemeText = "https") := by
  unfold Target.check at hcheck
  split at hcheck
  · cases hcheck
  · rename_i address hparse
    obtain ⟨_, hscheme, _⟩ := ok_of_bind_eq_ok hcheck
    have hgood := not_bad_of_refuseIf hscheme
    rw [Bool.and_eq_false_iff, bne_eq_false_iff_eq, bne_eq_false_iff_eq] at hgood
    exact ⟨address, hparse, hgood⟩

/-- A span that is not empty lasts at least a nanosecond. -/
theorem pos_of_not_isZero {d : Duration} (hzero : d.isZero = false) : 0 < d.nanos := by
  unfold Duration.isZero at hzero
  rw [beq_eq_false_iff_ne] at hzero
  omega

/-- Spans of which none is empty last at least a nanosecond each. -/
theorem pos_of_not_any_isZero {d : Option Duration} (hzero : d.any Duration.isZero = false) :
    ∀ span ∈ d, 0 < span.nanos := by
  intro span hspan
  cases hspan
  exact pos_of_not_isZero hzero

/-- What ends the work, once it has passed its check: it is something, it takes some time, and there
is an attempt for each user. -/
theorem extent_of_check (hcheck : s.extent.check s.crowd.users = .ok ()) :
    (s.extent.duration.isSome || s.extent.attempts.isSome) = true ∧
      (∀ d ∈ s.extent.duration, 0 < d.nanos) ∧
      ∀ n ∈ s.extent.attempts, s.crowd.users ≤ n := by
  unfold Extent.check at hcheck
  obtain ⟨_, hsome, hcheck⟩ := ok_of_bind_eq_ok hcheck
  obtain ⟨_, htime, hcheck⟩ := ok_of_bind_eq_ok hcheck
  have hsome := not_bad_of_refuseIf hsome
  refine ⟨?_, pos_of_not_any_isZero (not_bad_of_refuseIf htime), fun n hn => ?_⟩
  · rw [Bool.and_eq_false_iff] at hsome
    rcases hsome with hduration | hattempts
    · rw [Option.isNone_eq_false_iff] at hduration
      rw [hduration, Bool.true_or]
    · rw [Option.isNone_eq_false_iff] at hattempts
      rw [hattempts, Bool.or_true]
  · rw [Option.mem_def] at hn
    rw [hn] at hcheck
    have hfew := not_bad_of_refuseIf hcheck
    rw [decide_eq_false_iff_not] at hfew
    omega

/-- What a command line says ends the work is what the settings say. -/
theorem extent_of_toSettings {given : Arguments} {host : String}
    (hread : given.toSettings host = .ok s) :
    s.extent.attempts = given.attempts ∧ s.extent.duration.isSome = given.duration.isSome ∧
      ∀ d ∈ s.extent.duration, d.millis ≤ Text.maxWord64 := by
  have hreads := Arguments.readsAs_of_toSettings hread
  obtain ⟨hsome, hfits⟩ := Arguments.isSome_of_readOptional hreads.duration
  exact ⟨hreads.attempts, hsome, hfits⟩

/-- Accepted settings have passed their check, and what a command line said ended the work has been
looked at before. -/
theorem IsAccepted.check_ok (haccepted : s.IsAccepted line) :
    s.check = .ok () ∧ s.IsSound ∧ (s.extent.duration.isSome && s.extent.attempts.isSome) = false ∧
      (∀ d ∈ s.extent.duration, d.millis ≤ Text.maxWord64) ∧
      ∀ n ∈ s.extent.attempts, n ≤ Text.maxWord64 := by
  obtain ⟨given, host, hread, hchecked⟩ := haccepted
  have hsound := isSound_of_checkedSettings hchecked
  obtain ⟨hrange, _, hboth⟩ := CommandLine.isInRange_of_read hread
  obtain ⟨htoSettings, hcheck⟩ := read_and_check_of_checkedSettings hchecked
  obtain ⟨hattempts, hduration, hfits⟩ := extent_of_toSettings htoSettings
  refine ⟨hcheck, hsound, ?_, hfits, ?_⟩
  · rw [hattempts, hduration]
    exact hboth
  · rw [hattempts]
    exact hrange.attempts

/-- What ends the work of accepted settings is a time, to which the grace period can be added, or a
number of attempts, but not both. -/
theorem IsAccepted.extent_cases (haccepted : s.IsAccepted line) :
    (∃ d, s.extent = ⟨some d, none⟩ ∧ 0 < d.nanos ∧ (d + gracePeriod).secs ≤ Text.maxWord64) ∨
      ∃ n, s.extent = ⟨none, some n⟩ ∧ s.crowd.users ≤ n ∧ n ≤ Text.maxWord64 := by
  obtain ⟨hcheck, _, hboth, hfits, hword⟩ := haccepted.check_ok
  obtain ⟨hsome, hpos, henough⟩ := extent_of_check (parts_of_check hcheck).extent
  cases hs : s.extent with
  | mk duration attempts =>
    rw [hs] at hboth hfits hword hsome hpos henough
    cases duration with
    | none =>
      cases attempts with
      | none => cases hsome
      | some n => exact .inr ⟨n, rfl, henough n rfl, hword n rfl⟩
    | some d =>
      cases attempts with
      | none =>
        exact .inl ⟨d, rfl, hpos d rfl, Duration.secs_add_gracePeriod_le (hfits d rfl)⟩
      | some n => cases hboth

/-- A share of at least as many attempts as there are users is no empty one. -/
theorem one_le_share {total users id n : Nat} (husers : users ≠ 0) (henough : users ≤ total)
    (hshare : share total users id = .ok n) : 1 ≤ n := by
  unfold share at hshare
  rw [if_neg husers] at hshare
  cases hshare
  have hquotient : 1 ≤ total / users :=
    (Nat.one_le_div_iff (Nat.pos_of_ne_zero husers)).mpr henough
  omega

/-- The shares of some users can be told in words. -/
theorem exists_shareText {users : Nat} (husers : users ≠ 0) (total : Nat) :
    ∃ text, shareText total users = .ok text := by
  unfold shareText
  rw [if_neg husers]
  split <;> exact ⟨_, rfl⟩

/-- Whether or not the attempts are limited, it can be told how many there are for each user. -/
theorem exists_attemptsPerUser (husers : s.crowd.users ≠ 0) :
    ∃ text, s.attemptsPerUser = .ok text := by
  unfold attemptsPerUser
  split
  · exact ⟨_, rfl⟩
  · exact exists_ok_map (exists_shareText husers _) _

/-- What ends the work can be told. -/
theorem exists_rows {users : Nat} (husers : users ≠ 0) (extent : Extent) :
    ∃ rows, extent.rows users = .ok rows := by
  unfold Extent.rows
  split
  · exact ⟨_, rfl⟩
  · exact exists_ok_map (exists_shareText husers _) _
  · exact ⟨_, rfl⟩

/-- The settings can be told in a report. -/
theorem exists_settingsBlock (husers : s.crowd.users ≠ 0) :
    ∃ block, Report.settingsBlock s = .ok block := by
  refine exists_ok_map ?_ _
  unfold Report.extentBlock
  split
  · exact ⟨_, rfl⟩
  · exact exists_ok_map (exists_attemptsPerUser husers) _
  · exact ⟨_, rfl⟩

/-- A report can be made exactly if the attempts can be added up, as long as the settings can be
told. -/
theorem report_ok_iff {block : String} (hblock : Report.settingsBlock s = .ok block)
    (elapsed : Duration) (tally : Tally) :
    (∃ text, Report.ofTrial s elapsed tally = .ok text) ↔
      tally.completed.toNat + tally.failed.toNat ≤ Text.maxWord64 := by
  constructor
  · rintro ⟨text, htext⟩
    by_contra hlarge
    have hattempts : tally.attempts = .error .overflow := if_neg hlarge
    simp only [Report.ofTrial, hblock, Report.text, Report.overallRows, hattempts] at htext
    cases htext
  · intro hfits
    have hattempts : tally.attempts = .ok (tally.completed + tally.failed) := if_pos hfits
    simp only [Report.ofTrial, hblock, Report.text, Report.overallRows, Tally.successRate,
      hattempts]
    exact ⟨_, rfl⟩

/-- A think time of sound settings lies between its bounds. -/
theorem IsSound.thinkTime_between (hsound : s.IsSound) (chance : Nat) :
    ∃ span, User.thinkTime s chance = .ok span ∧
      s.crowd.minWait.millis ≤ span.millis ∧ span.millis ≤ s.crowd.maxWait.millis := by
  have hmillis : s.crowd.minWait.millis ≤ s.crowd.maxWait.millis :=
    Nat.div_le_div_right hsound.waits_ordered
  have hfit := hsound.waits_fit
  unfold User.thinkTime
  simp only [Text.toNat_word hfit, Text.toNat_word (Nat.le_trans hmillis hfit),
    if_neg (Nat.not_lt.mpr hmillis)]
  refine ⟨_, rfl, ?_⟩
  generalize s.crowd.minWait.millis = least at *
  generalize s.crowd.maxWait.millis = greatest at *
  have hdrawn : chance % (greatest - least + 1) < greatest - least + 1 :=
    Nat.mod_lt _ (Nat.succ_pos _)
  have hmillis' : (Duration.ofMillis (least + chance % (greatest - least + 1))).millis =
      least + chance % (greatest - least + 1) := Nat.mul_div_cancel _ (by decide)
  rw [hmillis']
  omega

/-- Nothing that is worked out from accepted settings can fail. -/
theorem IsAccepted.isFit (haccepted : s.IsAccepted line) : s.IsFit := by
  obtain ⟨hcheck, hsound, _⟩ := haccepted.check_ok
  have hparts := parts_of_check hcheck
  have husers : s.crowd.users ≠ 0 := Nat.pos_iff_ne_zero.mp hsound.users_pos
  have hextent := haccepted.extent_cases
  constructor
  case client =>
    obtain ⟨address, hparse, hscheme⟩ := scheme_of_check hparts.target
    obtain ⟨headers, hsplit, hwritten⟩ := exists_splitHeaders hparts.headers
    have hcustom : s.customHeaders = .ok headers := hsplit
    refine ⟨address, headers, hparse, hscheme, hcustom, hwritten, ?_⟩
    simp only [Http.Client.ofSettings, hparse, hcustom]
  case extent => exact hextent
  case shares =>
    refine ⟨husers, fun id => ?_⟩
    rcases hextent with ⟨d, hs, _⟩ | ⟨n, hs, henough, _⟩
    · exact ⟨none, by rw [attemptsOf, hs], by rw [hs], nofun⟩
    · obtain ⟨k, hk⟩ : ∃ k, share n s.crowd.users id = .ok k := ⟨_, if_neg husers⟩
      refine ⟨some k, ?_, by rw [hs]; rfl, fun _ k' hk' => ?_⟩
      · simp only [attemptsOf, hs, hk, Except.map]
      · cases hk'
        exact one_le_share husers henough hk
  case perUser => exact exists_attemptsPerUser husers
  case summary => exact exists_ok_map (exists_rows husers _) _
  case report =>
    obtain ⟨block, hblock⟩ := exists_settingsBlock husers
    exact report_ok_iff hblock
  case thinkTime =>
    have hmillis : s.crowd.minWait.millis ≤ s.crowd.maxWait.millis :=
      Nat.div_le_div_right hsound.waits_ordered
    exact ⟨Text.toNat_word (Nat.le_trans hmillis hsound.waits_fit),
      Text.toNat_word hsound.waits_fit, hmillis, hsound.thinkTime_between⟩
  case deadlines =>
    obtain ⟨_, hallocation, hscale⟩ := ok_of_bind_eq_ok hparts.polling
    exact ⟨pos_of_not_any_isZero (not_bad_of_refuseIf hallocation),
      pos_of_not_any_isZero (not_bad_of_refuseIf hscale)⟩

end Settings

end FleetTrial
