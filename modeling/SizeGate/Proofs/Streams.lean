import SizeGate.Proofs.ExitCode

/-!
What a run leaves on its two output streams.

Nothing is assumed about which events are logged or how. Main statement: a run without a verdict
leaves standard output empty and one with a verdict leaves one complete report there, while standard
error ends with the message of a failure or holds remarks alone (`streams_of_exitCode`).
-/

namespace SizeGate

open CommandLine (Options)
open Session (Step)

namespace Session

/-- The notice that a step says. -/
def Step.notice? : Step → Option Notice
  | .said notice => some notice
  | _ => none

theorem mem_filterMap_notice?_iff (steps : List Step) (notice : Notice) :
    notice ∈ steps.filterMap Step.notice? ↔ Step.said notice ∈ steps := by
  rw [List.mem_filterMap]
  constructor
  · rintro ⟨step, member, hnotice⟩
    cases step with
    | said said => exact Option.some.inj hnotice ▸ member
    | _ => cases hnotice
  · intro member
    exact ⟨_, member, rfl⟩

theorem standardOutput_append (first second : List Step) :
    standardOutput (first ++ second) = standardOutput first ++ standardOutput second := by
  simp only [standardOutput, List.map_append, String.join_append]

theorem standardOutput_eq_empty {steps : List Step} (h : ∀ text, Step.wrote text ∉ steps) :
    standardOutput steps = "" := by
  induction steps with
  | nil => rfl
  | cons step rest ih =>
    have hrest : standardOutput rest = "" :=
      ih fun text member => h text (List.mem_cons_of_mem _ member)
    have hcons : standardOutput (step :: rest) = standardOutput [step] ++ standardOutput rest :=
      standardOutput_append [step] rest
    rw [hcons, hrest]
    cases step with
    | wrote text => exact absurd List.mem_cons_self (h text)
    | _ => rfl

variable (logging : Log.Logging) (time : String)

theorem standardError_append (first second : List Step) :
    standardError logging time (first ++ second) =
      standardError logging time first ++ standardError logging time second := by
  simp only [standardError, List.map_append, String.join_append]

theorem standardError_said (notice : Notice) :
    standardError logging time [.said notice] = notice.line logging time := by
  simp [standardError]

theorem standardError_eq_empty {steps : List Step} (h : ∀ notice, Step.said notice ∉ steps) :
    standardError logging time steps = "" := by
  induction steps with
  | nil => rfl
  | cons step rest ih =>
    have hrest : standardError logging time rest = "" :=
      ih fun notice member => h notice (List.mem_cons_of_mem _ member)
    have hcons : standardError logging time (step :: rest) =
        standardError logging time [step] ++ standardError logging time rest :=
      standardError_append logging time [step] rest
    rw [hcons, hrest]
    cases step with
    | said notice => exact absurd List.mem_cons_self (h notice)
    | _ => simp [standardError]

theorem standardError_eq_join (steps : List Step) :
    standardError logging time steps =
      String.join ((steps.filterMap Step.notice?).map (Notice.line logging time)) := by
  induction steps with
  | nil => rfl
  | cons step rest ih =>
    have hcons : standardError logging time (step :: rest) =
        standardError logging time [step] ++ standardError logging time rest :=
      standardError_append logging time [step] rest
    rw [hcons, ih]
    cases step with
    | said notice =>
      have hnotice : Step.notice? (.said notice) = some notice := rfl
      rw [List.filterMap_cons_some hnotice, List.map_cons, String.join_cons, standardError_said]
    | _ =>
      rw [List.filterMap_cons_none rfl]
      simp [standardError]

end Session

namespace Failure

/-- The file that a failure is about. -/
def path : Failure → Path
  | .config path _ => path
  | .artifact path _ => path

theorem exists_message_eq (failure : Failure) :
    ∃ front back, failure.message = front ++ failure.path.display ++ back := by
  cases failure with
  | config path problem =>
    refine ⟨"config error: ", ": " ++ problem.message, ?_⟩
    have hmessage : (config path problem).message =
        "config error: " ++ path.display ++ ": " ++ problem.message := rfl
    exact hmessage.trans String.append_assoc
  | artifact path reason =>
    refine ⟨"cannot access artifact: ", ": " ++ reason.message, ?_⟩
    have hmessage : (artifact path reason).message =
        "cannot access artifact: " ++ path.display ++ ": " ++ reason.message := rfl
    exact hmessage.trans String.append_assoc

end Failure

namespace Situation

variable (s : Situation)

/-- The run fails over a file: a config that is not there or is no config, or an artifact that
cannot be measured. -/
inductive Fails : Failure → Prop where
  | noFile {options : Options} {named : Path} : s.Asks options → s.NamesConfig named →
      ¬ s.IsRegular (s.invocation.cwd.join named) →
      Fails (.config (s.invocation.cwd.join named) .fileMissing)
  | rejected {options : Options} {path : Path} {problem : ConfigProblem} : s.Asks options →
      s.GoesBy path → s.IsRegular path → s.files.Rejects path problem →
      Fails (.config path problem)
  | unreadable {options : Options} {found : Option Path} {config : Config} {reason : IoError} :
      s.Settles options found config → s.files.Denies (s.artifact options found config) reason →
      Fails (.artifact (s.artifact options found config) reason)

/-- The format that an argument asks for, or else the config, or else text. -/
inductive Prefers (options : Options) (config : Config) : Format → Prop where
  | flag {format : Format} : options.output = some format → Prefers options config format
  | config {format : Format} : options.output = none → config.format = some format →
      Prefers options config format
  | default : options.output = none → config.format = none → Prefers options config .text

/-- A notice that does not tell of a failure: a field without meaning in the config that was read,
or an event. -/
inductive IsRemark (found : Option Path) : Notice → Prop where
  | unknownField {path : Path} {text field : String} : found = some path →
      s.files.contents path = .ok (Utf8.encode text.toList) → field ∈ (Config.parse text).unknown →
      IsRemark found (.unknownField path field)
  | event (event : Log.Event) : IsRemark found (.event event)

variable {s} {options : Options} {found : Option Path} {config : Config} {size : UInt64}
  {failure : Failure}

theorem Fails.exists_course (h : s.Fails failure) :
    ∃ before, s.Course failure.exitCode (before ++ [.said (.failure failure.message)]) := by
  cases h with
  | noFile hasks hnamed hregular => exact ⟨_, .noFile hasks hnamed hregular⟩
  | @rejected options path problem hasks hgoes hregular hrejects =>
    refine ⟨s.lookups options ++ s.readings (some path), ?_⟩
    rw [List.append_assoc]
    exact .rejected hasks hgoes hregular hrejects
  | @unreadable options found config reason hsettles hdenies =>
    let artifact := s.artifact options found config
    refine ⟨s.lookups options ++ (s.readings found ++
      .said (.event (.checkingArtifact artifact)) :: s.measuring artifact), ?_⟩
    simp only [List.append_assoc, List.cons_append]
    exact .checked hsettles (.unreadable hdenies)

/-- The codes for a config, a command line or an artifact that is at fault stand for nothing
else. -/
theorem isMisused_or_exists_fails (h : s.exitCode.number = 1 ∨ s.exitCode.number = 3) :
    s.IsMisused ∨ ∃ failure, s.Fails failure := by
  have hcourse := s.course
  generalize s.exitCode = code at hcourse h
  generalize s.steps = steps at hcourse
  cases hcourse with
  | misused hmisuses => exact .inl ⟨_, hmisuses⟩
  | answered _ _ => simp [ExitCode.number] at h
  | unanswered _ _ => simp [ExitCode.number] at h
  | noFile hasks hnamed hregular => exact .inr ⟨_, .noFile hasks hnamed hregular⟩
  | rejected hasks hgoes hregular hrejects =>
    exact .inr ⟨_, .rejected hasks hgoes hregular hrejects⟩
  | checked hsettles hending =>
    cases hending with
    | unreadable hdenies => exact .inr ⟨_, .unreadable hsettles hdenies⟩
    | unreported _ _ => simp [ExitCode.number] at h
    | @reported size _ _ =>
      rw [number_codeOf_ota] at h
      split at h <;> omega

theorem Prefers.output_eq {format : Format} (h : Prefers options config format) :
    (options.output <|> config.format).getD .text = format := by
  cases h with
  | flag houtput =>
    rw [houtput]
    rfl
  | config houtput hformat =>
    rw [houtput, hformat]
    rfl
  | default houtput hformat =>
    rw [houtput, hformat]
    rfl

theorem Prefers.of_output_eq {others : Options} {format : Format}
    (h : Prefers options config format) (houtput : others.output = options.output) :
    Prefers others config format := by
  cases h with
  | flag hflag => exact .flag (houtput.trans hflag)
  | config hnone hformat => exact .config (houtput.trans hnone) hformat
  | default hnone hformat => exact .default (houtput.trans hnone) hformat

theorem exists_prefers (options : Options) (config : Config) :
    ∃ format, Prefers options config format := by
  cases houtput : options.output with
  | some format => exact ⟨format, .flag houtput⟩
  | none =>
    cases hformat : config.format with
    | some format => exact ⟨format, .config houtput hformat⟩
    | none => exact ⟨.text, .default houtput hformat⟩

theorem isComplete_report {format : Format} (h : Prefers options config format) :
    Report.IsComplete s.invocation.time (s.artifact options found config) size format
      (s.report options found config size) := by
  rw [report, Run.report, h.output_eq]
  cases format with
  | text => exact Report.isComplete_text _ _ _ _
  | json => exact Report.isComplete_json _ _ _

theorem standardError_lookups (s : Situation) (options : Options) (logging : Log.Logging)
    (time : String) : Session.standardError logging time (s.lookups options) = "" := by
  apply Session.standardError_eq_empty
  intro notice member
  obtain ⟨path, hpath⟩ := looked_of_mem_lookups member
  cases hpath

theorem isRemark_of_isPreparing {notice : Notice} (h : IsPreparing s.files found (.said notice)) :
    s.IsRemark found notice := by
  cases h with
  | noConfig _ => exact .event _
  | loading _ => exact .event _
  | unknownField hfound hcontents hfield => exact .unknownField hfound hcontents hfield
  | parsed _ => exact .event _

theorem isRemark_of_mem_measuring {artifact : Path} {notice : Notice}
    (h : Step.said notice ∈ s.measuring artifact) : s.IsRemark found notice := by
  obtain ⟨steps, hsteps, hrest⟩ := exists_measuring s artifact
  rw [hsteps] at h
  rcases List.mem_cons.mp h with hlooked | member
  · cases hlooked
  · cases hrest _ member
    exact .event _

/-- The steps of a run that reports are those before its report and the report. -/
theorem Reports.exists_steps (h : s.Reports options found config size) :
    ∃ before, s.steps = before ++ [.wrote (s.report options found config size)] ∧
      (∀ text, Step.wrote text ∉ before) ∧
      ∀ notice, Step.said notice ∈ before → s.IsRemark found notice := by
  obtain ⟨hsettles, hweighs, hwrote⟩ := h
  obtain ⟨hrefusal, -⟩ := wrote_of_mem_steps hwrote
  let artifact := s.artifact options found config
  refine ⟨s.lookups options ++ (s.readings found ++ .said (.event (.checkingArtifact artifact)) ::
    (s.measuring artifact ++ [.said (.event (.judged (Budget.ota.judge size)))])), ?_, ?_, ?_⟩
  · rw [(Course.checked hsettles (.reported hweighs hrefusal)).steps_eq]
    simp only [List.append_assoc, List.cons_append, List.nil_append, artifact]
  · intro text member
    simp [wrote_notMem_lookups, wrote_notMem_readings, wrote_notMem_measuring] at member
  · intro notice member
    simp only [List.mem_append, List.mem_cons, Step.said.injEq, List.not_mem_nil, or_false]
      at member
    rcases member with hlookups | hreadings | rfl | hmeasuring | rfl
    · exact isRemark_of_isPreparing (isPreparing_of_mem_lookups found hlookups)
    · exact isRemark_of_isPreparing (isPreparing_of_mem_readings hreadings)
    · exact .event _
    · exact isRemark_of_mem_measuring hmeasuring
    · exact .event _

theorem standardOutput_eq_empty (h : s.exitCode.number = 1 ∨ s.exitCode.number = 3) :
    Session.standardOutput s.steps = "" := by
  apply Session.standardOutput_eq_empty
  intro text member
  obtain ⟨-, ⟨-, hcode⟩ | ⟨_, _, _, size, -, -, -, hcode⟩⟩ := wrote_of_mem_steps member
  · rw [hcode] at h
    simp [ExitCode.number] at h
  · rw [hcode, number_codeOf_ota] at h
    split at h <;> omega

/-- With exit code 1 or 3 nothing is written to standard output, and the command line is refused or
the run fails over a file. A run that fails so says its failure last, with the path of the file in
it. Every other run but an enquiry, whose exit code is 0 or 2, has a verdict: standard output is the
complete report on the artifact that was measured, in the format preferred and with the figures of
the one budget there is, and standard error is made of remarks. -/
theorem streams_of_exitCode (s : Situation) (logging : Log.Logging) (time : String) :
    (s.exitCode.number = 1 ∨ s.exitCode.number = 3 →
      Session.standardOutput s.steps = "" ∧ (s.IsMisused ∨ ∃ failure, s.Fails failure)) ∧
    (∀ failure, s.Fails failure →
      s.exitCode = failure.exitCode ∧
      (∃ before, Session.standardError logging time s.steps =
        before ++ ("otabudget: " ++ failure.message ++ "\n")) ∧
      ∃ front back, failure.message = front ++ failure.path.display ++ back) ∧
    ((s.exitCode.number = 0 ∨ s.exitCode.number = 2) ∧ ¬ s.IsEnquiry →
      ∃ (options : Options) (found : Option Path) (config : Config) (size : UInt64)
        (format : Format) (notices : List Notice),
        s.Settles options found config ∧
        s.files.Weighs (s.artifact options found config) size ∧
        Prefers options config format ∧
        Report.IsComplete s.invocation.time (s.artifact options found config) size format
          (Session.standardOutput s.steps) ∧
        (∀ notice ∈ notices, s.IsRemark found notice) ∧
        Session.standardError logging time s.steps =
          String.join (notices.map (Notice.line logging time))) := by
  refine ⟨?_, ?_, ?_⟩
  · intro h
    exact ⟨standardOutput_eq_empty h, isMisused_or_exists_fails h⟩
  · intro failure hfails
    obtain ⟨before, hcourse⟩ := hfails.exists_course
    have hline : Notice.line logging time (.failure failure.message) =
        "otabudget: " ++ failure.message ++ "\n" := rfl
    have herror : Session.standardError logging time s.steps =
        Session.standardError logging time before ++
          ("otabudget: " ++ failure.message ++ "\n") := by
      rw [hcourse.steps_eq, Session.standardError_append, Session.standardError_said,
        hline]
    exact ⟨hcourse.exitCode_eq, ⟨_, herror⟩, failure.exists_message_eq⟩
  · rintro ⟨hcode, henquiry⟩
    obtain ⟨options, found, config, size, hreports⟩ := exists_reports henquiry hcode
    obtain ⟨before, hsteps, hquiet, hremarks⟩ := hreports.exists_steps
    obtain ⟨format, hprefers⟩ := exists_prefers options config
    refine ⟨options, found, config, size, format, before.filterMap Step.notice?, hreports.1,
      hreports.2.1, hprefers, ?_, ?_, ?_⟩
    · have houtput : Session.standardOutput s.steps = s.report options found config size := by
        rw [hsteps, Session.standardOutput_append, Session.standardOutput_eq_empty hquiet]
        simp [Session.standardOutput]
      rw [houtput]
      exact isComplete_report hprefers
    · intro notice member
      exact hremarks notice ((Session.mem_filterMap_notice?_iff before notice).mp member)
    · rw [hsteps, Session.standardError_append, Session.standardError_eq_join]
      simp [Session.standardError]

end Situation

end SizeGate
