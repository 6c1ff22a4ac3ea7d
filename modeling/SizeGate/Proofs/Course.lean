import SizeGate.Proofs.CommandLine.Given
import SizeGate.Proofs.Stage

/-!
The ways a run can go.

`Course` lists them, each with what it takes, the exit code and every step in order, in terms of the
command line and of single answers of the file system. Main statement: a run goes one of these ways
(`exists_course`) and does exactly the steps listed for it (`Course.play_eq`), so whatever is to be
shown of all runs can be shown by cases on its course.
-/

namespace SizeGate

open CommandLine (Options UsageError)
open Session (Step)

/-- All that a run depends on: what it starts from, the files, and a standard output that refuses
every write if there is an error to refuse with. -/
structure Situation where
  invocation : Invocation
  files : FileSystem
  refusal : Option IoError

namespace Situation

variable (s : Situation)

/-- The exit code of the run. -/
def exitCode : ExitCode :=
  ((run s.invocation).play s.files s.refusal).1

/-- Everything the run does, in order. -/
def steps : List Step :=
  ((run s.invocation).play s.files s.refusal).2

def IsRegular (path : Path) : Prop :=
  FileSystem.isRegular (s.files.status path) = true

instance (path : Path) : Decidable (s.IsRegular path) :=
  inferInstanceAs (Decidable (_ = true))

/-- The command line is a mistake. -/
def Misuses (error : UsageError) : Prop :=
  CommandLine.parse s.invocation.env s.invocation.args = .error (.usage error)

/-- The command line asks for help or the version, and `text` is what it gets. -/
inductive Enquires : String → Prop where
  | help : CommandLine.parse s.invocation.env s.invocation.args = .error .help →
      Enquires (Run.message s.invocation.env s.invocation.isTerminal
        (CommandLine.styledHelp s.invocation.env.config))
  | version : CommandLine.parse s.invocation.env s.invocation.args = .error .version →
      Enquires CommandLine.versionText

/-- The command line asks for a check with these options. -/
def Asks (options : Options) : Prop :=
  CommandLine.parse s.invocation.env s.invocation.args = .ok options

/-- A config is named: by an argument, or else by the environment. -/
def NamesConfig (named : Path) : Prop :=
  ∃ flags,
    CommandLine.parse { s.invocation.env with config := none } s.invocation.args = .ok flags ∧
    (flags.config = some named ∨
      flags.config = none ∧ s.invocation.env.config = some named.bytes)

/-- The config file that counts: the one that is named, seen from the working directory, or else the
one that is found. -/
inductive GoesBy : Path → Prop where
  | named {named : Path} : s.NamesConfig named → GoesBy (s.invocation.cwd.join named)
  | found {path : Path} : (∀ named, ¬ s.NamesConfig named) →
      Discovery.Finds s.files s.invocation.cwd path → GoesBy path

/-- A check with these options gets past its config: the file it is read from, if there is one, and
its settings. -/
inductive Settles (options : Options) : Option Path → Config → Prop where
  | byFile {path : Path} {config : Config} : s.Asks options → s.GoesBy path → s.IsRegular path →
      s.files.Reads path config → Settles options (some path) config
  | byDefault : s.Asks options → (∀ path, ¬ s.GoesBy path) → Settles options none {}

/-- The artifact of a check with these options and settings. -/
def artifact (options : Options) (found : Option Path) (config : Config) : Path :=
  Artifact.resolve options.artifact (Run.configured found config) s.invocation.cwd

/-- The report of a check with these options and settings on an artifact of `size` bytes. -/
def report (options : Options) (found : Option Path) (config : Config) (size : UInt64) : String :=
  Run.report s.invocation options config (s.artifact options found config) (Budget.ota.judge size)

/-- The steps that look for a config. -/
def lookups (options : Options) : List Step :=
  ((Discovery.resolveConfig options.config s.invocation.cwd).play s.files s.refusal).2

/-- The steps that come to the settings. -/
def readings (found : Option Path) : List Step :=
  ((Run.settings found).play s.files s.refusal).2

/-- The steps that measure a file. -/
def measuring (path : Path) : List Step :=
  ((Artifact.measure path).play s.files s.refusal).2

/-- The ways a check can end, from the measuring of its artifact on. -/
inductive Ending (options : Options) (found : Option Path) (config : Config) :
    ExitCode → List Step → Prop where
  | unreadable {reason : IoError} :
      s.files.Denies (s.artifact options found config) reason →
      Ending options found config .artifactUnreadable
        (s.measuring (s.artifact options found config) ++
          [.said (.failure (Failure.artifact (s.artifact options found config) reason).message)])
  | unreported {size : UInt64} {reason : IoError} :
      s.files.Weighs (s.artifact options found config) size → s.refusal = some reason →
      Ending options found config .internal
        (s.measuring (s.artifact options found config) ++
          [.said (.event (.judged (Budget.ota.judge size))),
            .refused (s.report options found config size), .said (.failure reason.message)])
  | reported {size : UInt64} :
      s.files.Weighs (s.artifact options found config) size → s.refusal = none →
      Ending options found config (Run.codeOf (Budget.ota.judge size))
        (s.measuring (s.artifact options found config) ++
          [.said (.event (.judged (Budget.ota.judge size))),
            .wrote (s.report options found config size)])

/-- The ways a run can go. -/
inductive Course : ExitCode → List Step → Prop where
  | misused {error : UsageError} : s.Misuses error →
      Course .misconfigured [.said (.usage
        (Run.message s.invocation.env s.invocation.errorIsTerminal error.styled))]
  | answered {text : String} : s.Enquires text → s.refusal = none →
      Course .success [.wrote text]
  | unanswered {text : String} {reason : IoError} : s.Enquires text → s.refusal = some reason →
      Course .internal [.refused text, .said (.failure reason.message)]
  | noFile {options : Options} {named : Path} : s.Asks options → s.NamesConfig named →
      ¬ s.IsRegular (s.invocation.cwd.join named) →
      Course .misconfigured (s.lookups options ++ [.said (.failure
        (Failure.config (s.invocation.cwd.join named) .fileMissing).message)])
  | rejected {options : Options} {path : Path} {problem : ConfigProblem} : s.Asks options →
      s.GoesBy path → s.IsRegular path → s.files.Rejects path problem →
      Course .misconfigured (s.lookups options ++ (s.readings (some path) ++
        [.said (.failure (Failure.config path problem).message)]))
  | checked {options : Options} {found : Option Path} {config : Config} {code : ExitCode}
      {ending : List Step} : s.Settles options found config →
      s.Ending options found config code ending →
      Course code (s.lookups options ++ (s.readings found ++
        .said (.event (.checkingArtifact (s.artifact options found config))) :: ending))

variable {s} {options : Options} {found : Option Path} {config : Config}

theorem Settles.asks (h : s.Settles options found config) : s.Asks options := by
  cases h <;> assumption

/-- The options of a check hold the config that is named, wherever it is named. -/
theorem namesConfig_iff (hasks : s.Asks options) (named : Path) :
    s.NamesConfig named ↔ options.config = some named := by
  obtain ⟨flags, hflags, hoptions⟩ := CommandLine.exists_flags_of_parse_eq_ok hasks
  have hconfig : options.config = (flags.config <|> s.invocation.env.config.map Path.mk) := by
    rw [hoptions]
  rw [hconfig]
  constructor
  · rintro ⟨other, hother, hnamed⟩
    cases Except.ok.inj (hother.symm.trans hflags)
    rcases hnamed with hflag | ⟨hnone, henv⟩
    · rw [hflag]
      rfl
    · rw [hnone, henv]
      rfl
  · intro h
    refine ⟨flags, hflags, ?_⟩
    cases hflag : flags.config with
    | some path =>
      rw [hflag] at h
      exact .inl h
    | none =>
      rw [hflag] at h
      obtain ⟨bytes, henv, rfl⟩ := Option.map_eq_some_iff.mp h
      exact .inr ⟨rfl, henv⟩

theorem config_eq_none (hasks : s.Asks options) (h : ∀ named, ¬ s.NamesConfig named) :
    options.config = none := by
  rw [Option.eq_none_iff_forall_ne_some]
  exact fun named heq => h named ((namesConfig_iff hasks named).mpr heq)

theorem resolveConfig_of_noFile {named : Path} (hasks : s.Asks options)
    (hnamed : s.NamesConfig named) (h : ¬ s.IsRegular (s.invocation.cwd.join named)) :
    ((Discovery.resolveConfig options.config s.invocation.cwd).play s.files s.refusal).1 =
      .error (.config (s.invocation.cwd.join named) .fileMissing) := by
  rw [(namesConfig_iff hasks named).mp hnamed, Discovery.play_resolveConfig_some]
  exact if_neg h

theorem resolveConfig_of_goesBy {path : Path} (hasks : s.Asks options) (hgoes : s.GoesBy path)
    (h : s.IsRegular path) :
    ((Discovery.resolveConfig options.config s.invocation.cwd).play s.files s.refusal).1 =
      .ok (some path) := by
  cases hgoes with
  | @named named hnamed =>
    rw [(namesConfig_iff hasks named).mp hnamed, Discovery.play_resolveConfig_some]
    exact if_pos h
  | found hnone hfinds =>
    rw [config_eq_none hasks hnone, Discovery.play_resolveConfig_none]
    exact congrArg _ ((Discovery.search_ancestors_eq_some_iff s.files s.refusal _ _).mpr hfinds)

theorem resolveConfig_of_not_goesBy (hasks : s.Asks options) (h : ∀ path, ¬ s.GoesBy path) :
    ((Discovery.resolveConfig options.config s.invocation.cwd).play s.files s.refusal).1 =
      .ok none := by
  have hnone : ∀ named, ¬ s.NamesConfig named := fun named hnamed => h _ (.named hnamed)
  have hsearch :
      ((Discovery.search s.invocation.cwd.ancestors).play s.files s.refusal).1 = none := by
    rw [Option.eq_none_iff_forall_ne_some]
    intro path hpath
    exact h path (.found hnone
      ((Discovery.search_ancestors_eq_some_iff s.files s.refusal _ _).mp hpath))
  rw [config_eq_none hasks hnone, Discovery.play_resolveConfig_none, hsearch]

/-- Until it has its config, a run does nothing but ask what paths lead to. -/
theorem looked_of_mem_lookups {step : Step} (h : step ∈ s.lookups options) :
    ∃ path, step = .looked path (s.files.status path) := by
  rw [lookups] at h
  cases hconfig : options.config with
  | none =>
    rw [hconfig, Discovery.play_resolveConfig_none] at h
    exact Discovery.looked_of_mem_search s.files s.refusal _ step h
  | some named =>
    rw [hconfig, Discovery.play_resolveConfig_some, List.mem_singleton] at h
    exact ⟨_, h⟩

theorem isPreparing_of_mem_lookups (found : Option Path) {step : Step}
    (h : step ∈ s.lookups options) : IsPreparing s.files found step := by
  obtain ⟨path, rfl⟩ := looked_of_mem_lookups h
  exact .looked path

theorem isPreparing_of_mem_readings {step : Step} (h : step ∈ s.readings found) :
    IsPreparing s.files found step :=
  isPreparing_of_mem_settings s.refusal found h

theorem Settles.resolveConfig (h : s.Settles options found config) :
    ((Discovery.resolveConfig options.config s.invocation.cwd).play s.files s.refusal).1 =
      .ok found := by
  cases h with
  | byFile hasks hgoes hregular _ => exact resolveConfig_of_goesBy hasks hgoes hregular
  | byDefault hasks hnone => exact resolveConfig_of_not_goesBy hasks hnone

theorem Settles.settings (h : s.Settles options found config) :
    ((Run.settings found).play s.files s.refusal).1 = .ok config := by
  cases h with
  | byFile _ _ _ hreads =>
    rw [settings_some]
    exact Config.load_of_reads s.refusal hreads
  | byDefault _ _ => simp [Run.settings, Session.log, Session.play_bind]

theorem goesBy_of_resolveConfig {path : Path} (hasks : s.Asks options)
    (h : ((Discovery.resolveConfig options.config s.invocation.cwd).play s.files s.refusal).1 =
      .ok (some path)) : s.GoesBy path ∧ s.IsRegular path := by
  cases hconfig : options.config with
  | some named =>
    rw [hconfig, Discovery.play_resolveConfig_some] at h
    have hnamed := (namesConfig_iff hasks named).mpr hconfig
    by_cases hregular : s.IsRegular (s.invocation.cwd.join named)
    · cases (if_pos hregular).symm.trans h
      exact ⟨.named hnamed, hregular⟩
    · cases (if_neg hregular).symm.trans h
  | none =>
    rw [hconfig, Discovery.play_resolveConfig_none] at h
    have hfinds := (Discovery.search_ancestors_eq_some_iff s.files s.refusal _ path).mp
      (Except.ok.inj h)
    have hnone : ∀ named, ¬ s.NamesConfig named := by
      intro named hnamed
      cases hconfig.symm.trans ((namesConfig_iff hasks named).mp hnamed)
    exact ⟨.found hnone hfinds, hfinds.isRegular⟩

theorem exists_noFile_of_resolveConfig {failure : Failure} (hasks : s.Asks options)
    (h : ((Discovery.resolveConfig options.config s.invocation.cwd).play s.files s.refusal).1 =
      .error failure) :
    ∃ named, s.NamesConfig named ∧ ¬ s.IsRegular (s.invocation.cwd.join named) ∧
      failure = .config (s.invocation.cwd.join named) .fileMissing := by
  cases hconfig : options.config with
  | some named =>
    have hnamed := (namesConfig_iff hasks named).mpr hconfig
    by_cases hregular : s.IsRegular (s.invocation.cwd.join named)
    · cases (resolveConfig_of_goesBy hasks (.named hnamed) hregular).symm.trans h
    · cases (resolveConfig_of_noFile hasks hnamed hregular).symm.trans h
      exact ⟨named, hnamed, hregular, rfl⟩
  | none =>
    rw [hconfig, Discovery.play_resolveConfig_none] at h
    cases h

theorem settles_of_reads {path : Path} (hasks : s.Asks options)
    (h : ((Discovery.resolveConfig options.config s.invocation.cwd).play s.files s.refusal).1 =
      .ok (some path)) (hreads : s.files.Reads path config) :
    s.Settles options (some path) config := by
  obtain ⟨hgoes, hregular⟩ := goesBy_of_resolveConfig hasks h
  exact .byFile hasks hgoes hregular hreads

/-- A check gets past its config if its two stages up to there end well. -/
theorem settles_iff : s.Settles options found config ↔ s.Asks options ∧
    ((Discovery.resolveConfig options.config s.invocation.cwd).play s.files s.refusal).1 =
      .ok found ∧
    ((Run.settings found).play s.files s.refusal).1 = .ok config := by
  refine ⟨fun h => ⟨h.asks, h.resolveConfig, h.settings⟩, ?_⟩
  rintro ⟨hasks, hresolve, hsettings⟩
  cases found with
  | none =>
    simp only [Run.settings, Session.log, Session.play_bind, Session.play_notice,
      Session.play_pure] at hsettings
    cases hsettings
    refine .byDefault hasks fun path hgoes => ?_
    by_cases hregular : s.IsRegular path
    · cases (resolveConfig_of_goesBy hasks hgoes hregular).symm.trans hresolve
    · cases hgoes with
      | named hnamed => cases (resolveConfig_of_noFile hasks hnamed hregular).symm.trans hresolve
      | found _ hfinds => exact hregular hfinds.isRegular
  | some path =>
    rw [settings_some] at hsettings
    rcases s.files.reads_or_rejects path with ⟨other, hreads⟩ | ⟨problem, hrejects⟩
    · cases (Config.load_of_reads s.refusal hreads).symm.trans hsettings
      exact settles_of_reads hasks hresolve hreads
    · cases (Config.load_of_rejects s.refusal hrejects).symm.trans hsettings

/-- A check gets past its config with one result at most. -/
theorem Settles.unique {others : Options} {path : Option Path} {settings : Config}
    (h : s.Settles options found config) (hother : s.Settles others path settings) :
    others = options ∧ path = found ∧ settings = config := by
  cases Except.ok.inj (hother.asks.symm.trans h.asks)
  cases Except.ok.inj (hother.resolveConfig.symm.trans h.resolveConfig)
  cases Except.ok.inj (hother.settings.symm.trans h.settings)
  exact ⟨rfl, rfl, rfl⟩

/-- Measuring asks about the file first and about no other; it opens regular files only. -/
theorem exists_measuring (s : Situation) (path : Path) :
    ∃ steps, s.measuring path = .looked path (s.files.status path) :: steps ∧
      ∀ step ∈ steps, IsMeasuring s.files path step := by
  rcases s.files.weighs_or_denies path with ⟨size, hweighs⟩ | ⟨reason, hdenies⟩
  · have hregular : FileSystem.isRegular (s.files.status path) = true := by
      rw [hweighs.1]
      rfl
    rw [measuring, Artifact.measure_of_weighs s.refusal hweighs]
    refine ⟨_, rfl, ?_⟩
    intro step member
    simp only [List.mem_cons, List.not_mem_nil, or_false] at member
    rcases member with rfl | rfl
    · exact .opened hregular
    · exact .measured size
  · obtain ⟨steps, hplay, hsteps⟩ := Artifact.measure_of_denies s.refusal hdenies
    rw [measuring, hplay]
    exact ⟨steps, rfl, hsteps⟩

/-- A check that got past its config goes on to one of its endings. -/
theorem Ending.play_eq {code : ExitCode} {ending : List Step}
    (h : s.Ending options found config code ending) :
    (Run.check s.invocation options found config).play s.files s.refusal =
      (code, .said (.event (.checkingArtifact (s.artifact options found config))) :: ending) := by
  cases h with
  | unreadable hdenies =>
    obtain ⟨steps, hplay, -⟩ := Artifact.measure_of_denies s.refusal hdenies
    simp only [artifact] at hplay
    simp [Run.check, Session.play_bind, Session.log, hplay, Run.play_fail, measuring, artifact,
      Failure.exitCode]
  | unreported hweighs hrefusal =>
    have hplay := Artifact.measure_of_weighs s.refusal hweighs
    simp only [artifact, hrefusal] at hplay
    simp [Run.check, Session.play_bind, Session.log, hplay, Run.play_conclude, measuring, artifact,
      report, hrefusal]
  | reported hweighs hrefusal =>
    have hplay := Artifact.measure_of_weighs s.refusal hweighs
    simp only [artifact, hrefusal] at hplay
    simp [Run.check, Session.play_bind, Session.log, hplay, Run.play_conclude, measuring, artifact,
      report, hrefusal]

theorem exists_ending (s : Situation) (options : Options) (found : Option Path) (config : Config) :
    ∃ code ending, s.Ending options found config code ending := by
  rcases s.files.weighs_or_denies (s.artifact options found config) with ⟨size, hweighs⟩ | hdenies
  · cases hrefusal : s.refusal with
    | none => exact ⟨_, _, .reported hweighs hrefusal⟩
    | some reason => exact ⟨_, _, .unreported hweighs hrefusal⟩
  · obtain ⟨reason, hdenies⟩ := hdenies
    exact ⟨_, _, .unreadable hdenies⟩

/-- A run does exactly what is listed for the way it goes. -/
theorem Course.play_eq {code : ExitCode} {steps : List Step} (h : s.Course code steps) :
    (run s.invocation).play s.files s.refusal = (code, steps) := by
  cases h with
  | misused hmisuses =>
    rw [Misuses] at hmisuses
    simp [run, hmisuses, Session.play_bind]
  | answered hanswer hrefusal =>
    cases hanswer with
    | help hparse => simp [run, hparse, Run.play_conclude, hrefusal]
    | version hparse => simp [run, hparse, Run.play_conclude, hrefusal]
  | unanswered hanswer hrefusal =>
    cases hanswer with
    | help hparse => simp [run, hparse, Run.play_conclude, hrefusal]
    | version hparse => simp [run, hparse, Run.play_conclude, hrefusal]
  | noFile hasks hnamed hregular =>
    have hresolve := resolveConfig_of_noFile hasks hnamed hregular
    rw [Asks] at hasks
    simp [run, hasks, Run.perform, Session.play_bind, hresolve, Run.play_fail, lookups,
      Failure.exitCode]
  | rejected hasks hgoes hregular hrejects =>
    have hresolve := resolveConfig_of_goesBy hasks hgoes hregular
    have hsettings := (settings_some s.refusal _).trans (Config.load_of_rejects s.refusal hrejects)
    rw [Asks] at hasks
    simp [run, hasks, Run.perform, Session.play_bind, hresolve, hsettings, Run.play_fail, lookups,
      readings, Failure.exitCode]
  | checked hsettles hending =>
    have hresolve := hsettles.resolveConfig
    have hsettings := hsettles.settings
    have hasks := hsettles.asks
    rw [Asks] at hasks
    simp [run, hasks, Run.perform, Session.play_bind, hresolve, hsettings, hending.play_eq, lookups,
      readings]

/-- Every run goes one of the ways listed. -/
theorem exists_course (s : Situation) : ∃ code steps, s.Course code steps := by
  cases hparse : CommandLine.parse s.invocation.env s.invocation.args with
  | error stop =>
    cases stop with
    | usage error => exact ⟨_, _, .misused hparse⟩
    | help =>
      cases hrefusal : s.refusal with
      | none => exact ⟨_, _, .answered (.help hparse) hrefusal⟩
      | some reason => exact ⟨_, _, .unanswered (.help hparse) hrefusal⟩
    | version =>
      cases hrefusal : s.refusal with
      | none => exact ⟨_, _, .answered (.version hparse) hrefusal⟩
      | some reason => exact ⟨_, _, .unanswered (.version hparse) hrefusal⟩
  | ok options =>
    by_cases hgoes : ∃ path, s.GoesBy path
    · obtain ⟨path, hgoes⟩ := hgoes
      by_cases hregular : s.IsRegular path
      · rcases s.files.reads_or_rejects path with ⟨config, hreads⟩ | ⟨problem, hrejects⟩
        · obtain ⟨code, ending, hending⟩ := exists_ending s options (some path) config
          exact ⟨_, _, .checked (.byFile hparse hgoes hregular hreads) hending⟩
        · exact ⟨_, _, .rejected hparse hgoes hregular hrejects⟩
      · cases hgoes with
        | named hnamed => exact ⟨_, _, .noFile hparse hnamed hregular⟩
        | found _ hfinds => exact absurd hfinds.isRegular hregular
    · have hnone : ∀ path, ¬ s.GoesBy path := fun path h => hgoes ⟨path, h⟩
      obtain ⟨code, ending, hending⟩ := exists_ending s options none {}
      exact ⟨_, _, .checked (.byDefault hparse hnone) hending⟩

theorem course (s : Situation) : s.Course s.exitCode s.steps := by
  obtain ⟨code, steps, h⟩ := exists_course s
  rw [exitCode, Situation.steps, h.play_eq]
  exact h

theorem Course.exitCode_eq {code : ExitCode} {steps : List Step} (h : s.Course code steps) :
    s.exitCode = code := by
  rw [exitCode, h.play_eq]

theorem Course.steps_eq {code : ExitCode} {steps : List Step} (h : s.Course code steps) :
    s.steps = steps := by
  rw [Situation.steps, h.play_eq]

theorem wrote_notMem_lookups (s : Situation) (options : Options) (text : String) :
    Step.wrote text ∉ s.lookups options := by
  intro member
  cases isPreparing_of_mem_lookups none member

theorem wrote_notMem_readings (s : Situation) (found : Option Path) (text : String) :
    Step.wrote text ∉ s.readings found := by
  intro member
  cases isPreparing_of_mem_readings member

theorem wrote_notMem_measuring (s : Situation) (path : Path) (text : String) :
    Step.wrote text ∉ s.measuring path := by
  intro member
  obtain ⟨steps, hsteps, hrest⟩ := exists_measuring s path
  rw [hsteps] at member
  rcases List.mem_cons.mp member with hlooked | member
  · cases hlooked
  · cases hrest _ member

/-- Standard output is written to at most once: with the text an enquiry gets, or with the report on
an artifact that was measured, whose verdict is then the exit code. -/
theorem wrote_of_mem_steps {text : String} (h : Step.wrote text ∈ s.steps) :
    s.refusal = none ∧
      (s.Enquires text ∧ s.exitCode = .success ∨
        ∃ options found config size, s.Settles options found config ∧
          s.files.Weighs (s.artifact options found config) size ∧
          text = s.report options found config size ∧
          s.exitCode = Run.codeOf (Budget.ota.judge size)) := by
  have hcourse := s.course
  generalize hcode : s.exitCode = code at hcourse ⊢
  generalize s.steps = steps at hcourse h
  cases hcourse with
  | misused _ => simp at h
  | answered henquires hrefusal =>
    cases List.mem_singleton.mp h
    exact ⟨hrefusal, .inl ⟨henquires, rfl⟩⟩
  | unanswered _ _ => simp at h
  | noFile _ _ _ => simp [wrote_notMem_lookups] at h
  | rejected _ _ _ _ => simp [wrote_notMem_lookups, wrote_notMem_readings] at h
  | checked hsettles hending =>
    cases hending with
    | unreadable _ =>
      simp [wrote_notMem_lookups, wrote_notMem_readings, wrote_notMem_measuring] at h
    | unreported _ _ =>
      simp [wrote_notMem_lookups, wrote_notMem_readings, wrote_notMem_measuring] at h
    | reported hweighs hrefusal =>
      simp only [List.mem_append, List.mem_cons, wrote_notMem_lookups, wrote_notMem_readings,
        wrote_notMem_measuring, reduceCtorEq, Step.wrote.injEq, List.not_mem_nil, or_false,
        false_or] at h
      exact ⟨hrefusal, .inr ⟨_, _, _, _, hsettles, hweighs, h, rfl⟩⟩

end Situation

end SizeGate
