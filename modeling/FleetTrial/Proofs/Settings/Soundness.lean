import FleetTrial.Program
import FleetTrial.Proofs.Result
import FleetTrial.Trial.User

/-!
# Sound settings

Settings are sound if there is at least one user and the bounds of the think time stand in their
order, also as 64-bit words of milliseconds. Settings that were read off a command line and checked
are sound, for each part of them was read and checked, and each duration was read as a whole number
of milliseconds that fits a word. With sound settings every user finds its share of the attempts
and its think times.
-/

namespace FleetTrial

/-- A refusal that passes finds nothing bad. -/
theorem not_bad_of_refuseIf {bad : Bool} {fault : SettingsFault}
    (hpassed : refuseIf bad fault = .ok ()) : bad = false := by
  cases bad with
  | false => rfl
  | true => cases hpassed

/-- A written duration is a whole number of milliseconds that fits a word. -/
theorem Duration.exists_ofMillis_of_parse {text : List Char} {d : Duration}
    (hparse : parse text = .ok d) : ∃ ms, ms ≤ Text.maxWord64 ∧ d = .ofMillis ms := by
  unfold parse at hparse
  simp only at hparse
  split at hparse
  · cases hparse
  · split at hparse
    · cases hparse
      exact ⟨_, Nat.min_le_right _ _, rfl⟩
    · cases hparse

namespace Arguments

/-- Whether a command line says this about how long things may take and how much is to be done. -/
structure ReadsAs (a : Arguments) (s : Settings) : Prop where
  duration : readOptional a.duration = .ok s.extent.duration
  allocationDeadline :
    readLimit (a.allocationDeadline.getD "60s") = .ok s.polling.allocationDeadline
  scaleDeadline : readLimit (a.scaleDeadline.getD "10m") = .ok s.polling.scaleDeadline
  minWait : readDuration (a.minWait.getD "500ms") = .ok s.crowd.minWait
  maxWait : readDuration (a.maxWait.getD "900ms") = .ok s.crowd.maxWait
  interval : readDuration (a.pollInterval.getD "0ms") = .ok s.polling.interval
  attempts : s.extent.attempts = a.attempts

/-- Settings say what their command line says. -/
theorem readsAs_of_toSettings {a : Arguments} {host : String} {s : Settings}
    (hread : a.toSettings host = .ok s) : a.ReadsAs s := by
  unfold toSettings at hread
  obtain ⟨_, hduration, hread⟩ := ok_of_bind_eq_ok hread
  obtain ⟨_, hallocation, hread⟩ := ok_of_bind_eq_ok hread
  obtain ⟨_, hscale, hread⟩ := ok_of_bind_eq_ok hread
  obtain ⟨_, hminWait, hread⟩ := ok_of_bind_eq_ok hread
  obtain ⟨_, hmaxWait, hread⟩ := ok_of_bind_eq_ok hread
  obtain ⟨_, hinterval, hread⟩ := ok_of_bind_eq_ok hread
  cases hread
  exact ⟨hduration, hallocation, hscale, hminWait, hmaxWait, hinterval, rfl⟩

/-- A duration is read as a whole number of milliseconds that fits a word. -/
theorem exists_ofMillis_of_readDuration {text : String} {d : Duration}
    (hread : readDuration text = .ok d) : ∃ ms, ms ≤ Text.maxWord64 ∧ d = .ofMillis ms :=
  Duration.exists_ofMillis_of_parse (ok_of_mapError_eq_ok hread)

/-- A duration that is read off a command line fits a word of milliseconds. -/
theorem millis_le_of_readDuration {text : String} {d : Duration}
    (hread : readDuration text = .ok d) : d.millis ≤ Text.maxWord64 := by
  obtain ⟨ms, hfits, rfl⟩ := exists_ofMillis_of_readDuration hread
  rwa [Duration.ofMillis, Duration.millis, Nat.mul_div_cancel _ (by decide)]

/-- A deadline is read as a whole number of milliseconds that fits a word, if as any. -/
theorem exists_ofMillis_of_readLimit {text : String} {limit : Duration}
    (hread : readLimit text = .ok (some limit)) :
    ∃ ms, ms ≤ Text.maxWord64 ∧ limit = .ofMillis ms := by
  have hparse : Duration.parseLimit text.toList = .ok (some limit) := ok_of_mapError_eq_ok hread
  unfold Duration.parseLimit at hparse
  split at hparse
  · cases hparse
  · obtain ⟨d, hparse, hlimit⟩ := ok_of_map_eq_ok hparse
    cases hlimit
    exact Duration.exists_ofMillis_of_parse hparse

end Arguments

namespace Settings

variable {s : Settings}

/-- Whether there are users, and the bounds of their think time are in order. -/
structure IsStaffed (s : Settings) : Prop where
  users_pos : 0 < s.crowd.users
  waits_ordered : s.crowd.minWait ≤ s.crowd.maxWait

/-- Whether there are users, and think times for them. That the waits fit a word of milliseconds is
true of every duration that can be written on a command line. -/
structure IsSound (s : Settings) : Prop extends IsStaffed s where
  waits_fit : s.crowd.maxWait.millis ≤ Text.maxWord64

/-- With users there is a share of the attempts for each of them. -/
theorem IsStaffed.attemptsOf_ok (hstaffed : s.IsStaffed) (id : Nat) :
    ∃ target, s.attemptsOf id = .ok target := by
  have husers : s.crowd.users ≠ 0 := Nat.pos_iff_ne_zero.mp hstaffed.users_pos
  unfold attemptsOf share
  split
  · exact ⟨none, rfl⟩
  · rw [if_neg husers]
    exact ⟨some _, rfl⟩

/-- Whether a crash is that of drawing a think time whose bounds, in milliseconds cut to words, are
the wrong way round. -/
def Misdraws (s : Settings) (crash : Crash) : Prop :=
  crash = .emptyRange ∧ (UInt64.ofNat s.crowd.maxWait.millis).toNat <
    (UInt64.ofNat s.crowd.minWait.millis).toNat

/-- A draw fails exactly if the bounds are the wrong way round. -/
theorem thinkTime_eq_error_iff {chance : Nat} {crash : Crash} :
    User.thinkTime s chance = .error crash ↔ s.Misdraws crash := by
  unfold User.thinkTime Misdraws
  simp only
  split
  · simp only [Except.error.injEq, and_true, *, eq_comm]
  · simp only [reduceCtorEq, and_false, *]

/-- With sound settings no draw fails. -/
theorem IsSound.not_misdraws (hsound : s.IsSound) (crash : Crash) : ¬s.Misdraws crash := by
  rintro ⟨_, hreversed⟩
  have hmillis : s.crowd.minWait.millis ≤ s.crowd.maxWait.millis :=
    Nat.div_le_div_right hsound.waits_ordered
  rw [Text.toNat_word hsound.waits_fit,
    Text.toNat_word (Nat.le_trans hmillis hsound.waits_fit)] at hreversed
  exact Nat.not_lt.mpr hmillis hreversed

/-- Settings that a command line asks for have waits that fit a word of milliseconds. -/
theorem maxWait_fits_of_toSettings {given : Arguments} {host : String}
    (hread : given.toSettings host = .ok s) : s.crowd.maxWait.millis ≤ Text.maxWord64 :=
  Arguments.millis_le_of_readDuration (Arguments.readsAs_of_toSettings hread).maxWait

/-- Whether each part of some settings passes its check. -/
structure PassesParts (s : Settings) : Prop where
  target : s.target.check = .ok ()
  fleet : s.fleet.check = .ok ()
  crowd : s.crowd.check = .ok ()
  extent : s.extent.check s.crowd.users = .ok ()
  polling : s.polling.check = .ok ()
  metrics : s.metrics.check = .ok ()
  headers : checkHeaders s.target.headers = .ok ()

/-- Settings that have passed their check have passed each part of it. -/
theorem parts_of_check (hcheck : s.check = .ok ()) : s.PassesParts := by
  unfold check at hcheck
  obtain ⟨_, htarget, hcheck⟩ := ok_of_bind_eq_ok hcheck
  obtain ⟨_, hfleet, hcheck⟩ := ok_of_bind_eq_ok hcheck
  obtain ⟨_, hcrowd, hcheck⟩ := ok_of_bind_eq_ok hcheck
  obtain ⟨_, hextent, hcheck⟩ := ok_of_bind_eq_ok hcheck
  obtain ⟨_, hpolling, hcheck⟩ := ok_of_bind_eq_ok hcheck
  obtain ⟨_, hmetrics, hheaders⟩ := ok_of_bind_eq_ok hcheck
  exact ⟨htarget, hfleet, hcrowd, hextent, hpolling, hmetrics, hheaders⟩

/-- Settings that have passed their check have users, and the bounds of the think time in order. -/
theorem crowd_of_check (hcheck : s.check = .ok ()) :
    0 < s.crowd.users ∧ s.crowd.minWait ≤ s.crowd.maxWait := by
  have hcrowd := (parts_of_check hcheck).crowd
  unfold Crowd.check at hcrowd
  obtain ⟨_, hsome, hcrowd⟩ := ok_of_bind_eq_ok hcrowd
  obtain ⟨_, _, hordered⟩ := ok_of_bind_eq_ok hcrowd
  have hsome := not_bad_of_refuseIf hsome
  have hordered := not_bad_of_refuseIf hordered
  simp only [beq_eq_false_iff_ne, decide_eq_false_iff_not] at hsome hordered
  exact ⟨Nat.pos_iff_ne_zero.mpr hsome, Nat.not_lt.mp hordered⟩

/-- Settings that come of a command line were read off it and have passed their check. -/
theorem read_and_check_of_checkedSettings {given : Arguments} {host : String}
    (hchecked : checkedSettings given host = .ok s) :
    given.toSettings host = .ok s ∧ s.check = .ok () := by
  unfold checkedSettings at hchecked
  split at hchecked
  · cases hchecked
  · rename_i hread
    obtain ⟨_, hcheck, rfl⟩ := ok_of_map_eq_ok hchecked
    exact ⟨hread, hcheck⟩

/-- Settings that were read off a command line and checked are sound. -/
theorem isSound_of_checkedSettings {given : Arguments} {host : String}
    (hchecked : checkedSettings given host = .ok s) : s.IsSound := by
  obtain ⟨hread, hcheck⟩ := read_and_check_of_checkedSettings hchecked
  obtain ⟨husers, hordered⟩ := crowd_of_check hcheck
  exact ⟨⟨husers, hordered⟩, maxWait_fits_of_toSettings hread⟩

/-- The settings of a small trial whose users make some attempts and do not think. -/
def small (users attempts : Nat) : Settings where
  target := ⟨"http://localhost:8001", false, [], .ofSecs 30⟩
  fleet := ⟨"fleet", 1, "default", "image", 26000, false, false⟩
  crowd := ⟨users, .zero, .zero⟩
  extent := ⟨none, some attempts⟩
  polling := ⟨none, none, .zero⟩
  metrics := ⟨none, "performance"⟩
  verbose := false

/-- A greatest wait that just does not fit a word is cut to none. -/
example : Misdraws { small 1 2 with crowd := ⟨1, .ofMillis 1, .ofMillis 18446744073709551616⟩ }
    .emptyRange := ⟨rfl, by decide⟩

/-- The settings of a small trial whose users forward what they measure. -/
def forwarding (users attempts : Nat) : Settings :=
  { small users attempts with metrics := ⟨some "localhost:2003", "performance"⟩ }

/-- The settings of a small trial that creates its fleet and deletes it in the end. -/
def furnishing (users attempts : Nat) : Settings :=
  { small users attempts with fleet := ⟨"fleet", 1, "default", "image", 26000, true, true⟩ }

end Settings

end FleetTrial
