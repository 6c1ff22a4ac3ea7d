import SizeGate.Proofs.Report.Agreement

/-!
When two runs cannot be told apart.

What is left of a run is its exit code and its two output streams; `LooksLike` compares them, but
for the time that a report for programs carries. What was looked up on the way does not count. Main
statement: checks that come to the same config, or to the same failure over it, look alike if they
check the same artifact and nothing else that a report goes by differs (`IsTwin.looksLike`).
-/

namespace SizeGate

open CommandLine (Options)
open Session (Step)

namespace Report

/-- The report for programs: its time, and what stands behind it. -/
def stamped (time rest : String) : String :=
  "\x7b\n  \"timestamp\": " ++ String.ofList (Json.quote time) ++ rest

/-- What two runs write is the same, or would be if their reports carried the same time. -/
inductive SameButTime (time later : String) : String → String → Prop where
  | same (text : String) : SameButTime time later text text
  | stamped (rest : String) : SameButTime time later (stamped time rest) (stamped later rest)

/-- The time has no part in what stands behind it. -/
theorem exists_json_eq_stamped (artifact : Path) (verdict : Verdict) :
    ∃ rest, ∀ time, json time artifact verdict = stamped time rest := by
  obtain ⟨others, hothers⟩ : ∃ others, ∀ time, fields time artifact verdict =
      .object (("timestamp", .string time) :: others) :=
    ⟨_, fun time => fields.eq_1 time artifact verdict⟩
  let front := '\x7b' :: '\n' :: (Json.indent 1 ++ Json.quote "timestamp" ++ [':', ' '])
  let back := Json.layoutFields 1 others ++ '\n' :: Json.indent 0 ++ ['\x7d']
  have hlayout : ∀ time, Json.layout 0 (.object (("timestamp", .string time) :: others)) =
      front ++ (Json.quote time ++ back) := by
    intro time
    simp only [front, back, Json.layout, Json.layoutField, List.cons_append, List.append_assoc,
      List.nil_append]
  have hfront : String.ofList front = "\x7b\n  \"timestamp\": " := by decide +kernel
  refine ⟨String.ofList back ++ "\n", fun time => ?_⟩
  rw [json, hothers, Json.pretty, hlayout, String.ofList_append, String.ofList_append, hfront]
  unfold stamped
  repeat rw [String.append_assoc]

theorem sameButTime_json (time later : String) (artifact : Path) (verdict : Verdict) :
    SameButTime time later (json time artifact verdict) (json later artifact verdict) := by
  obtain ⟨rest, hrest⟩ := exists_json_eq_stamped artifact verdict
  rw [hrest, hrest]
  exact .stamped rest

end Report

open Report (SameButTime)

namespace Session

/-- What is left of the steps on both streams is the same, but for the time. -/
structure LeavesLike (time later : String) (steps others : List Step) : Prop where
  output : SameButTime time later (standardOutput steps) (standardOutput others)
  error : ∀ logging clock, standardError logging clock others = standardError logging clock steps

variable {time later : String} {steps others front : List Step}

theorem LeavesLike.refl (time later : String) (steps : List Step) :
    LeavesLike time later steps steps :=
  ⟨.same _, fun _ _ => rfl⟩

/-- What writes nothing in front does not make a difference. -/
theorem LeavesLike.append (h : LeavesLike time later steps others)
    (hquiet : ∀ text, Step.wrote text ∉ front) :
    LeavesLike time later (front ++ steps) (front ++ others) := by
  constructor
  · rw [standardOutput_append, standardOutput_append, standardOutput_eq_empty hquiet,
      String.empty_append, String.empty_append]
    exact h.output
  · intro logging clock
    rw [standardError_append, standardError_append, h.error]

theorem LeavesLike.cons {step : Step} (h : LeavesLike time later steps others)
    (hstep : ∀ text, Step.wrote text ≠ step) :
    LeavesLike time later (step :: steps) (step :: others) := by
  have hquiet : ∀ text, Step.wrote text ∉ [step] := by simpa using hstep
  exact h.append hquiet

theorem leavesLike_wrote {text other : String} (h : SameButTime time later text other) :
    LeavesLike time later [.wrote text] [.wrote other] := by
  constructor
  · simpa [standardOutput] using h
  · intro logging clock
    simp [standardError]

theorem leavesLike_refused (text other : String) (notice : Notice) :
    LeavesLike time later [.refused text, .said notice] [.refused other, .said notice] := by
  constructor
  · simpa [standardOutput] using SameButTime.same ""
  · intro logging clock
    simp [standardError]

end Session

namespace Situation

open Session (LeavesLike)

/-- Two runs end alike: the exit code is the same, and so is what is left on both streams, but for
the time of a report. Each run logs as its own environment asks. -/
structure LooksLike (s t : Situation) : Prop where
  exitCode : t.exitCode = s.exitCode
  output : SameButTime s.invocation.time t.invocation.time
    (Session.standardOutput s.steps) (Session.standardOutput t.steps)
  error : ∀ clock, Session.standardError (.ofEnvironment t.invocation.env) clock t.steps =
    Session.standardError (.ofEnvironment s.invocation.env) clock s.steps

/-- Two checks with these options come to the same config, or to the same failure over it, from
there to the same artifact, and differ in nothing else that counts. -/
structure IsTwin (s t : Situation) (options others : Options) : Prop where
  asks : s.Asks options
  asks_others : t.Asks others
  options_eq : others = { options with config := others.config }
  env : t.invocation.env = { s.invocation.env with config := t.invocation.env.config }
  isTerminal : t.invocation.isTerminal = s.invocation.isTerminal
  files : t.files = s.files
  refusal : t.refusal = s.refusal
  resolved : ((Discovery.resolveConfig others.config t.invocation.cwd).play t.files t.refusal).1 =
    ((Discovery.resolveConfig options.config s.invocation.cwd).play s.files s.refusal).1
  artifact : ∀ found config, s.Settles options found config →
    t.artifact others found config = s.artifact options found config

variable {s t : Situation} {options others : Options} {found : Option Path} {config : Config}

/-- The report for people of a check with these options is in color. -/
def isColored (s : Situation) (options : Options) : Bool :=
  (Color.resolve options.color options.noColor s.invocation.env s.invocation.isTerminal).shows
    s.invocation.env

theorem report_eq_text {size : UInt64} (h : Prefers options config .text) :
    s.report options found config size =
      Report.text (s.isColored options) (Budget.ota.judge size) := by
  rw [report, Run.report, h.output_eq, isColored]

theorem report_eq_json {size : UInt64} (h : Prefers options config .json) :
    s.report options found config size =
      Report.json s.invocation.time (s.artifact options found config) (Budget.ota.judge size) := by
  rw [report, Run.report, h.output_eq]

theorem leavesLike_lookups {steps rest : List Step} {time later : String}
    (h : LeavesLike time later steps rest) :
    LeavesLike time later (s.lookups options ++ steps) (t.lookups others ++ rest) := by
  constructor
  · rw [Session.standardOutput_append, Session.standardOutput_append,
      Session.standardOutput_eq_empty (wrote_notMem_lookups s options),
      Session.standardOutput_eq_empty (wrote_notMem_lookups t others), String.empty_append,
      String.empty_append]
    exact h.output
  · intro logging clock
    rw [Session.standardError_append, Session.standardError_append, standardError_lookups,
      standardError_lookups, h.error]

theorem looksLike_of_course {code : ExitCode} {steps rest : List Step} (h : s.Course code steps)
    (hother : t.Course code rest)
    (hlike : LeavesLike s.invocation.time t.invocation.time steps rest)
    (hlogging : Log.Logging.ofEnvironment t.invocation.env =
      Log.Logging.ofEnvironment s.invocation.env) : s.LooksLike t := by
  refine ⟨hother.exitCode_eq.trans h.exitCode_eq.symm, ?_, fun clock => ?_⟩
  · rw [h.steps_eq, hother.steps_eq]
    exact hlike.output
  · rw [h.steps_eq, hother.steps_eq, hlogging]
    exact hlike.error _ _

theorem readings_congr (hfiles : t.files = s.files) (hrefusal : t.refusal = s.refusal)
    (found : Option Path) : t.readings found = s.readings found := by
  rw [readings, readings, hfiles, hrefusal]

section Checks

variable (houtput : others.output = options.output)
  (hcolored : t.isColored others = s.isColored options)
  (hartifact : t.artifact others found config = s.artifact options found config)
include houtput hcolored hartifact

/-- A report goes by the options for it and by the artifact. -/
theorem sameButTime_report (size : UInt64) :
    SameButTime s.invocation.time t.invocation.time (s.report options found config size)
      (t.report others found config size) := by
  obtain ⟨format, hprefers⟩ := exists_prefers options config
  have hother := hprefers.of_output_eq houtput
  cases format with
  | text =>
    rw [report_eq_text hprefers, report_eq_text hother, hcolored]
    exact .same _
  | json =>
    rw [report_eq_json hprefers, report_eq_json hother, hartifact]
    exact Report.sameButTime_json _ _ _ _

variable (hfiles : t.files = s.files) (hrefusal : t.refusal = s.refusal)
include hfiles hrefusal

theorem Ending.exists_leavesLike {code : ExitCode} {ending : List Step}
    (h : s.Ending options found config code ending) :
    ∃ other, t.Ending others found config code other ∧
      LeavesLike s.invocation.time t.invocation.time ending other := by
  have hmeasuring : t.measuring (t.artifact others found config) =
      s.measuring (s.artifact options found config) := by
    rw [measuring, measuring, hfiles, hrefusal, hartifact]
  have hquiet := wrote_notMem_measuring s (s.artifact options found config)
  cases h with
  | unreadable hdenies =>
    rw [← hartifact, ← hfiles] at hdenies
    refine ⟨_, .unreadable hdenies, ?_⟩
    rw [hmeasuring, hartifact]
    exact .refl _ _ _
  | unreported hweighs hreason =>
    rw [← hartifact, ← hfiles] at hweighs
    refine ⟨_, .unreported hweighs (hrefusal.trans hreason), ?_⟩
    rw [hmeasuring]
    exact ((Session.leavesLike_refused _ _ _).cons (by simp)).append hquiet
  | reported hweighs hnone =>
    rw [← hartifact, ← hfiles] at hweighs
    refine ⟨_, .reported hweighs (hrefusal.trans hnone), ?_⟩
    rw [hmeasuring]
    have hreport := sameButTime_report houtput hcolored hartifact
    exact ((Session.leavesLike_wrote (hreport _)).cons (by simp)).append hquiet

/-- A check of the same artifact by the same config goes the same way. -/
theorem Ending.exists_course {code : ExitCode} {ending : List Step}
    (h : s.Ending options found config code ending) (hother : t.Settles others found config) :
    ∃ steps, t.Course code steps ∧ LeavesLike s.invocation.time t.invocation.time
      (s.lookups options ++ (s.readings found ++
        .said (.event (.checkingArtifact (s.artifact options found config))) :: ending)) steps := by
  obtain ⟨other, hend, hlike⟩ := h.exists_leavesLike houtput hcolored hartifact hfiles hrefusal
  refine ⟨_, .checked hother hend, ?_⟩
  rw [readings_congr hfiles hrefusal, hartifact]
  exact leavesLike_lookups ((hlike.cons (by simp)).append (wrote_notMem_readings s _))

end Checks

section Twins

variable (h : s.IsTwin t options others)
include h

theorem IsTwin.settles (hsettles : s.Settles options found config) :
    t.Settles others found config := by
  refine settles_iff.mpr ⟨h.asks_others, h.resolved.trans hsettles.resolveConfig, ?_⟩
  rw [h.files, h.refusal]
  exact hsettles.settings

theorem IsTwin.isColored : t.isColored others = s.isColored options := by
  rw [Situation.isColored, Situation.isColored, h.options_eq, h.env, h.isTerminal]
  rfl

/-- Each way that the first of the checks can go is one that the second can go. -/
theorem IsTwin.exists_course {code : ExitCode} {steps : List Step} (hcourse : s.Course code steps) :
    ∃ other, t.Course code other ∧ LeavesLike s.invocation.time t.invocation.time steps other := by
  have hasks : ∀ {other}, s.Asks other → other = options :=
    fun hother => Except.ok.inj (hother.symm.trans h.asks)
  cases hcourse with
  | misused hmisuses => cases hmisuses.symm.trans h.asks
  | answered henquires _ | unanswered henquires _ =>
    cases henquires with
    | help hparse | version hparse => cases hparse.symm.trans h.asks
  | noFile hother hnamed hregular =>
    cases hasks hother
    have hfailed := h.resolved.trans (resolveConfig_of_noFile hother hnamed hregular)
    obtain ⟨named, hnames, hmissing, hfailure⟩ :=
      exists_noFile_of_resolveConfig h.asks_others hfailed
    refine ⟨_, .noFile h.asks_others hnames hmissing, ?_⟩
    rw [← hfailure]
    exact leavesLike_lookups (.refl _ _ _)
  | rejected hother hgoes hregular hrejects =>
    cases hasks hother
    have hfound := h.resolved.trans (resolveConfig_of_goesBy hother hgoes hregular)
    obtain ⟨hgoes, hregular⟩ := goesBy_of_resolveConfig h.asks_others hfound
    rw [← h.files] at hrejects
    refine ⟨_, .rejected h.asks_others hgoes hregular hrejects, ?_⟩
    rw [readings_congr h.files h.refusal]
    exact leavesLike_lookups (.refl _ _ _)
  | checked hsettles hending =>
    cases hasks hsettles.asks
    have houtput : others.output = options.output := by rw [h.options_eq]
    exact hending.exists_course houtput h.isColored (h.artifact _ _ hsettles) h.files h.refusal
      (h.settles hsettles)

theorem IsTwin.looksLike : s.LooksLike t := by
  obtain ⟨other, hcourse, hlike⟩ := h.exists_course s.course
  have hlogging : Log.Logging.ofEnvironment t.invocation.env =
      Log.Logging.ofEnvironment s.invocation.env := by
    rw [h.env]
    rfl
  exact looksLike_of_course s.course hcourse hlike hlogging

end Twins

end Situation

end SizeGate
