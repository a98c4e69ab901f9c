import FleetTrial.Proofs.Settings.Acceptance
import FleetTrial.Proofs.Text.Digits
import FleetTrial.Proofs.Text.Lines

/-!
# What is shown of the settings

The settings are shown twice, in the summary before a trial and in the report behind it. The summary
prints them row by row, and the report puts a block of text together. With users to share the
attempts among, the block is made of the rows of the summary from the one about the control plane
through the one about the think time, whatever the settings hold. If no text in the settings has a
line end, these are the same lines of the summary and of the report.
-/

namespace FleetTrial

/-- What is shown of what ends the work of some users: a duration alone, or a number of attempts
alone with the shares of the users. -/
inductive Extent.IsShownAs (users : Nat) : Extent → List String → Prop
  | duration (d : Duration) :
    IsShownAs users ⟨some d, none⟩ ["   Duration:         " ++ (toString d.secs ++ "s")]
  | attempts (n : Nat) {perUser : String} (hshares : shareText n users = .ok perUser) :
    IsShownAs users ⟨none, some n⟩
      ["   Iterations:       " ++ toString n,
       "   Per User:         " ++ (perUser ++ " allocations")]
  | neither : IsShownAs users ⟨none, none⟩ []
  | both (d : Duration) (n : Nat) : IsShownAs users ⟨some d, some n⟩ []

namespace Settings

variable {s : Settings} {extent : List String}

/-- The rows that both the summary and the report show, with those about what ends the work. -/
def commonRows (s : Settings) (extent : List String) : List String :=
  s.targetRows ++ extent ++ [s.thinkTimeRow]

/-- The first row of the summary. -/
def heading : String := "🎮 Fleet Allocation Load Test Configuration:"

/-- The rows that only the summary shows, with the empty one at its end. -/
def laterRows (s : Settings) : List String :=
  [Text.row "Alloc Deadline" (millisOrNone s.polling.allocationDeadline), s.metricsRow] ++
    s.extraRows ++ [""]

/-- The rows of the summary. -/
def summaryRows (s : Settings) (extent : List String) : List String :=
  heading :: (s.commonRows extent ++ s.laterRows)

/-- What ends the work of some users can be shown. -/
theorem exists_isShownAs {users : Nat} (husers : 1 ≤ users) (e : Extent) :
    ∃ rows, e.rows users = .ok rows ∧ e.IsShownAs users rows := by
  obtain ⟨duration, attempts⟩ := e
  cases duration with
  | some d =>
    cases attempts with
    | some n => exact ⟨_, rfl, .both d n⟩
    | none => exact ⟨_, rfl, .duration d⟩
  | none =>
    cases attempts with
    | none => exact ⟨_, rfl, .neither⟩
    | some n =>
      obtain ⟨perUser, hshares⟩ := exists_shareText (Nat.one_le_iff_ne_zero.mp husers) n
      refine ⟨_, ?_, .attempts n hshares⟩
      rw [Extent.rows, hshares]
      rfl

/-- The rows about the control plane, the fleet and the users, spelled out. -/
theorem targetRows_eq (s : Settings) : s.targetRows =
    ["   Control Plane:    " ++ s.target.url,
     "   Fleet:            " ++ (s.fleet.space ++ "/" ++ s.fleet.name ++ " (" ++
       toString s.fleet.replicas ++ " replicas)"),
     "   Users:            " ++ toString s.crowd.users] := rfl

/-- The row about the think time, spelled out. -/
theorem thinkTimeRow_eq (s : Settings) : s.thinkTimeRow =
    "   Think Time:       " ++ (toString s.crowd.minWait.millis ++ "ms - " ++
      toString s.crowd.maxWait.millis ++ "ms") := rfl

/-- The block about what ends the work is made of the rows about it. -/
theorem extentBlock_eq (hshown : s.extent.IsShownAs s.crowd.users extent) :
    Report.extentBlock s = .ok (Text.unlines extent) := by
  unfold Report.extentBlock
  generalize hextent : s.extent = e at hshown
  cases hshown with
  | duration d =>
    refine congrArg Except.ok (String.toList_inj.mp ?_)
    simp only [Text.unlines, List.map_cons, List.map_nil, String.join_cons, String.join_nil,
      String.toList_append, List.append_assoc]
    rfl
  | attempts n hshares =>
    simp only [attemptsPerUser, hextent, hshares]
    refine congrArg Except.ok (String.toList_inj.mp ?_)
    simp only [Option.getD_some, Text.unlines, List.map_cons, List.map_nil, String.join_cons,
      String.join_nil, String.toList_append, List.append_assoc]
    rfl
  | neither => rfl
  | both d n => rfl

/-- The block of the report is made of the rows that the summary shows as well. -/
theorem settingsBlock_eq (hshown : s.extent.IsShownAs s.crowd.users extent) :
    Report.settingsBlock s = .ok (Text.unlines (s.commonRows extent)) := by
  rw [Report.settingsBlock, extentBlock_eq hshown, commonRows, Text.unlines_append,
    Text.unlines_append, targetRows_eq, thinkTimeRow_eq]
  refine congrArg Except.ok (String.toList_inj.mp ?_)
  simp only [Text.unlines, List.map_cons, List.map_nil, String.join_cons, String.join_nil,
    String.toList_append, List.append_assoc]
  rfl

/-- The summary is made of its rows. -/
theorem summary_eq (hextent : s.extent.rows s.crowd.users = .ok extent) :
    s.summary = .ok (Text.unlines (s.summaryRows extent)) := by
  rw [summary, hextent]
  simp only [summaryRows, commonRows, laterRows, Except.map, List.append_assoc]
  rfl

/-- A row of another name is not about the think time. -/
theorem isRowOf_thinkTime_row (name value : String) (hname : ':' ∉ name.toList)
    (hne : "Think Time" ≠ name) : Text.isRowOf "Think Time" (Text.row name value) = false := by
  rw [Text.isRowOf_row (by decide) hname, decide_eq_false hne]

/-- No row about what ends the work is about the think time. -/
theorem isRowOf_thinkTime_of_isShownAs {users : Nat} {e : Extent}
    (hshown : e.IsShownAs users extent) :
    ∀ row ∈ extent, Text.isRowOf "Think Time" row = false := by
  cases hshown with
  | duration d =>
    exact List.forall_mem_singleton.mpr
      (isRowOf_thinkTime_row "Duration" _ (by decide) (by decide))
  | attempts n hshares =>
    refine List.forall_mem_cons.mpr ⟨?_, List.forall_mem_singleton.mpr ?_⟩
    · exact isRowOf_thinkTime_row "Iterations" _ (by decide) (by decide)
    · exact isRowOf_thinkTime_row "Per User" _ (by decide) (by decide)
  | neither | both d n => exact nofun

/-- The common rows are found between others, as long as no row about a control plane stands in
front of them. -/
theorem rowsBetween_common (hshown : s.extent.IsShownAs s.crowd.users extent)
    {before : List String} (hbefore : ∀ row ∈ before, Text.isRowOf "Control Plane" row = false)
    (after : List String) :
    Text.rowsBetween "Control Plane" "Think Time" (before ++ (s.commonRows extent ++ after)) =
      s.commonRows extent := by
  have hmiddle : ∀ row ∈ s.targetRows ++ extent, Text.isRowOf "Think Time" row = false := by
    rw [List.forall_mem_append]
    refine ⟨?_, isRowOf_thinkTime_of_isShownAs hshown⟩
    simp only [targetRows, List.forall_mem_cons, List.not_mem_nil, false_imp_iff, implies_true,
      and_true]
    exact ⟨isRowOf_thinkTime_row "Control Plane" _ (by decide) (by decide),
      isRowOf_thinkTime_row "Fleet" _ (by decide) (by decide),
      isRowOf_thinkTime_row "Users" _ (by decide) (by decide)⟩
  have hopening : Text.isRowOf "Control Plane" (Text.row "Control Plane" s.target.url) = true :=
    Text.isRowOf_row (by decide) (by decide) _
  have hclosing : Text.isRowOf "Think Time" s.thinkTimeRow = true :=
    Text.isRowOf_row (by decide) (by decide) _
  have hrows :
      s.commonRows extent ++ after = s.targetRows ++ extent ++ s.thinkTimeRow :: after := by
    rw [commonRows, List.append_assoc, List.singleton_append]
  rw [hrows]
  exact Text.rowsBetween_append hbefore hopening hmiddle hclosing after

/-- Whether no text in some settings has a line end. -/
structure IsUnbroken (s : Settings) : Prop where
  url : Text.IsUnbroken s.target.url
  space : Text.IsUnbroken s.fleet.space
  fleet : Text.IsUnbroken s.fleet.name
  collector : ∀ address ∈ s.metrics.collector, Text.IsUnbroken address
  metrics : Text.IsUnbroken s.metrics.space

/-- The shares of some users are told in words without line ends. -/
theorem isUnbroken_shareText {total users : Nat} {text : String}
    (htext : shareText total users = .ok text) : Text.IsUnbroken text := by
  unfold shareText at htext
  split at htext
  · cases htext
  · split at htext <;> cases htext <;> simp +decide

/-- What is shown of what ends the work has no line ends. -/
theorem isUnbroken_of_isShownAs {users : Nat} {e : Extent} (hshown : e.IsShownAs users extent) :
    ∀ row ∈ extent, Text.IsUnbroken row := by
  cases hshown with
  | duration d => simp +decide
  | attempts n hshares => simp +decide [isUnbroken_shareText hshares]
  | neither | both d n => exact nofun

/-- A limit is told without line ends. -/
theorem isUnbroken_millisOrNone (limit : Option Duration) :
    Text.IsUnbroken (millisOrNone limit) := by
  cases limit with
  | none => decide
  | some d => simp +decide [millisOrNone]

/-- No common row of unbroken settings has a line end. -/
theorem IsUnbroken.commonRows (hunbroken : s.IsUnbroken)
    (hshown : s.extent.IsShownAs s.crowd.users extent) :
    ∀ row ∈ s.commonRows extent, Text.IsUnbroken row := by
  simp only [Settings.commonRows, List.forall_mem_append]
  refine ⟨⟨?_, isUnbroken_of_isShownAs hshown⟩, ?_⟩
  · simp +decide [targetRows, hunbroken.url, hunbroken.space, hunbroken.fleet]
  · simp +decide [thinkTimeRow]

/-- No later row of unbroken settings has a line end. -/
theorem IsUnbroken.laterRows (hunbroken : s.IsUnbroken) :
    ∀ row ∈ s.laterRows, Text.IsUnbroken row := by
  have hmetrics : Text.IsUnbroken s.metricsRow := by
    have hspace := hunbroken.metrics
    have haddress := hunbroken.collector
    cases hcollector : s.metrics.collector with
    | none => simp +decide [metricsRow, hcollector]
    | some address => simp +decide [metricsRow, hcollector, haddress _ hcollector, hspace]
  simp only [Settings.laterRows, List.forall_mem_append]
  refine ⟨⟨?_, ?_⟩, by decide⟩
  · simp +decide [isUnbroken_millisOrNone, hmetrics]
  · simp only [extraRows, List.forall_mem_append]
    refine ⟨⟨?_, ?_⟩, ?_⟩ <;> split <;> simp +decide

/-- The lines of the summary of unbroken settings are its rows, with nothing behind the last. -/
theorem lines_summary (hunbroken : s.IsUnbroken)
    (hshown : s.extent.IsShownAs s.crowd.users extent) :
    Text.lines (Text.unlines (s.summaryRows extent)) =
      [heading] ++ (s.commonRows extent ++ (s.laterRows ++ [""])) := by
  have hrows : ∀ row ∈ s.summaryRows extent, Text.IsUnbroken row := by
    rw [summaryRows, List.forall_mem_cons, List.forall_mem_append]
    exact ⟨by decide, hunbroken.commonRows hshown, hunbroken.laterRows⟩
  have hlines := Text.lines_unlines_append hrows ""
  rw [String.append_empty] at hlines
  rw [hlines, summaryRows, List.cons_append, List.append_assoc]
  rfl

end Settings

namespace Report

/-- The rows of a report in front of the settings. -/
def frontRows : List String :=
  ["", "📊 Fleet Allocation Load Test Results", rule, "", "🔧 Configuration:"]

/-- A report on attempts that can be added up shows the block about the settings behind its front
rows. -/
theorem exists_ofTrial_eq_ok {s : Settings} {block : String} {tally : Tally}
    (hblock : settingsBlock s = .ok block) (elapsed : Duration)
    (hfits : tally.completed.toNat + tally.failed.toNat ≤ Text.maxWord64) :
    ∃ rest, ofTrial s elapsed tally = .ok (Text.unlines frontRows ++ (block ++ rest)) := by
  obtain ⟨text, htext⟩ := (Settings.report_ok_iff hblock elapsed tally).mpr hfits
  have hmade := htext
  simp only [ofTrial, hblock, Report.text] at hmade
  obtain ⟨overall, -, rfl⟩ := ok_of_map_eq_ok hmade
  exact ⟨_, htext.trans (congrArg Except.ok String.append_assoc)⟩

/-- The front rows of a report have no line ends. -/
theorem isUnbroken_frontRows : ∀ row ∈ frontRows, Text.IsUnbroken row := by decide +kernel

/-- None of the front rows of a report is about a control plane. -/
theorem isRowOf_frontRows :
    ∀ row ∈ frontRows, Text.isRowOf "Control Plane" row = false := by decide +kernel

end Report

namespace Settings

/-- **The summary and the report show the same.** With users to share the attempts among, the block
that a report shows of the settings is made of the rows of the summary from the one about the
control plane through the one about the think time. These are the rows about the control plane, the
fleet, the users and the think time, with a row about a duration alone between them, or two rows
about a number of attempts alone, or none. Every report has the block behind its front rows. If no
text in the settings has a line end, these rows are also the lines from the one about the control
plane through the one about the think time, in the summary as in the report. -/
theorem report_repeats_summary (s : Settings) (husers : 1 ≤ s.crowd.users) :
    ∃ extent, s.extent.IsShownAs s.crowd.users extent ∧
      s.summary = .ok (Text.unlines (s.summaryRows extent)) ∧
      Text.rowsBetween "Control Plane" "Think Time" (s.summaryRows extent) = s.commonRows extent ∧
      Report.settingsBlock s = .ok (Text.unlines (s.commonRows extent)) ∧
      (∀ elapsed tally, tally.completed.toNat + tally.failed.toNat ≤ Text.maxWord64 →
        ∃ rest, Report.ofTrial s elapsed tally =
          .ok (Text.unlines Report.frontRows ++ (Text.unlines (s.commonRows extent) ++ rest))) ∧
      (s.IsUnbroken →
        Text.rowsBetween "Control Plane" "Think Time"
          (Text.lines (Text.unlines (s.summaryRows extent))) = s.commonRows extent ∧
        ∀ rest, Text.rowsBetween "Control Plane" "Think Time" (Text.lines
          (Text.unlines Report.frontRows ++ (Text.unlines (s.commonRows extent) ++ rest))) =
            s.commonRows extent) := by
  obtain ⟨extent, hextent, hshown⟩ := exists_isShownAs husers s.extent
  have hblock := settingsBlock_eq hshown
  have hheading : ∀ row ∈ [heading], Text.isRowOf "Control Plane" row = false := by decide
  refine ⟨extent, hshown, summary_eq hextent, rowsBetween_common hshown hheading s.laterRows,
    hblock, fun elapsed tally => Report.exists_ofTrial_eq_ok hblock elapsed,
    fun hunbroken => ⟨?_, fun rest => ?_⟩⟩
  · rw [lines_summary hunbroken hshown]
    exact rowsBetween_common hshown hheading _
  · rw [Text.lines_unlines_append Report.isUnbroken_frontRows,
      Text.lines_unlines_append (hunbroken.commonRows hshown)]
    exact rowsBetween_common hshown Report.isRowOf_frontRows _

/-- Four attempts of three users are shown with the two shares that are handed out. -/
theorem report_repeats_summary_of_uneven :
    1 ≤ (small 3 4).crowd.users ∧
    Report.settingsBlock (small 3 4) = .ok (Text.unlines
      ["   Control Plane:    http://localhost:8001",
       "   Fleet:            default/fleet (1 replicas)",
       "   Users:            3",
       "   Iterations:       4",
       "   Per User:         1-2 allocations",
       "   Think Time:       0ms - 0ms"]) ∧
    ∃ extent, (small 3 4).summary = .ok (Text.unlines ((small 3 4).summaryRows extent)) ∧
      Text.rowsBetween "Control Plane" "Think Time" ((small 3 4).summaryRows extent) =
        (small 3 4).commonRows extent := by
  have husers : 1 ≤ (small 3 4).crowd.users := by decide
  obtain ⟨extent, hshown, hsummary, hbetween, hblock, -⟩ :=
    report_repeats_summary (small 3 4) husers
  refine ⟨husers, ?_, extent, hsummary, hbetween⟩
  rw [hblock]
  cases hshown with
  | attempts n hshares =>
    obtain rfl := Except.ok.inj hshares
    rfl

end Settings

end FleetTrial
