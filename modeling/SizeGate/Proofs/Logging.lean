import SizeGate.Proofs.Log.Lines
import SizeGate.Proofs.SameRun

/-!
What logging adds to a run.

A filter can be unset, mistaken, or anything else. Main statement: it has no say in the exit code,
in what standard output gets, or in what is said besides events; each filter only leaves events out,
and with all of them left in they tell how far the run came (`log_tells_how_far`). The lines of a
log carry the time at which they were written, which is not compared.
-/

namespace SizeGate

open CommandLine (Options)
open Report (SameButTime)
open Session (Step)

namespace Log

/-- The filter that asks for everything there is. -/
def everything : Option Bytes :=
  some (Utf8.encode "debug".toList)

theorem directives_everything : directives everything = [{ level := .debug }] := by
  decide +kernel

theorem admits_everything {logging : Logging} (h : logging.directives = directives everything)
    (event : Event) : logging.admits event = true := by
  rw [Logging.admits, h, directives_everything]
  cases event <;> rfl

end Log

namespace Notice

def event? : Notice → Option Log.Event
  | .event what => some what
  | _ => none

@[simp] theorem event?_event (what : Log.Event) : (event what).event? = some what := rfl

/-- Events are written if they are logged, and whatever else is said is written anyhow. -/
def isWritten (logging : Log.Logging) (notice : Notice) : Bool :=
  notice.event?.all logging.admits

theorem line_of_not_isWritten {logging : Log.Logging} {notice : Notice}
    (h : notice.isWritten logging = false) (time : String) : notice.line logging time = "" := by
  cases notice with
  | event what =>
    have hadmits : ¬ logging.admits what = true := by simpa [isWritten, event?] using h
    exact if_neg hadmits
  | unknownField _ _ | failure _ | usage _ => cases h

/-- Of notices that are written, the events have the lines that are spelled out for them, in
order. -/
theorem forall₂_standsAs_line {logging : Log.Logging} {notices : List Notice}
    (h : ∀ notice ∈ notices, notice.isWritten logging = true) (clock : String) :
    List.Forall₂ (fun event line => event.StandsAs clock logging.styled line)
      (notices.filterMap event?)
      ((notices.filter (·.event?.isSome)).map (Notice.line logging clock)) := by
  induction notices with
  | nil => exact .nil
  | cons notice rest ih =>
    have hrest := ih fun other member => h other (List.mem_cons_of_mem _ member)
    cases notice with
    | event what =>
      have hadmits : logging.admits what = true := by
        simpa [isWritten, event?] using h _ List.mem_cons_self
      have hline : (Notice.event what).line logging clock = what.line logging.styled clock :=
        if_pos hadmits
      rw [List.filterMap_cons_some (event?_event what), List.filter_cons_of_pos rfl,
        List.map_cons, hline]
      exact .cons (what.standsAs_line logging.styled clock) hrest
    | unknownField _ _ | failure _ | usage _ =>
      rw [List.filterMap_cons_none rfl, List.filter_cons_of_neg (by simp [event?])]
      exact hrest

/-- The line of a notice that is no event does not depend on the log. -/
theorem line_of_event?_eq_none {notice : Notice} (h : notice.event? = none)
    (logging other : Log.Logging) (time clock : String) :
    notice.line logging time = notice.line other clock := by
  cases notice with
  | event what => cases h
  | unknownField _ _ | failure _ | usage _ => rfl

end Notice

namespace Session

/-- What is said, whether it is written or not. -/
def said (steps : List Step) : List Notice :=
  steps.filterMap Step.notice?

/-- The notices that are written to standard error. -/
def written (logging : Log.Logging) (steps : List Step) : List Notice :=
  (said steps).filter (Notice.isWritten logging)

/-- The events that a run comes by, whether they are logged or not. -/
def events (steps : List Step) : List Log.Event :=
  (said steps).filterMap Notice.event?

@[simp] theorem said_append (steps others : List Step) :
    said (steps ++ others) = said steps ++ said others :=
  List.filterMap_append

@[simp] theorem said_cons_said (notice : Notice) (steps : List Step) :
    said (.said notice :: steps) = notice :: said steps := rfl

@[simp] theorem said_cons_wrote (text : String) (steps : List Step) :
    said (.wrote text :: steps) = said steps := rfl

@[simp] theorem said_cons_refused (text : String) (steps : List Step) :
    said (.refused text :: steps) = said steps := rfl

/-- Standard error holds the lines of the notices that are written, and nothing else. -/
theorem standardError_eq_written (logging : Log.Logging) (time : String) (steps : List Step) :
    standardError logging time steps =
      String.join ((written logging steps).map (Notice.line logging time)) := by
  rw [standardError_eq_join, written, said]
  induction steps.filterMap Step.notice? with
  | nil => rfl
  | cons notice rest ih =>
    rw [List.map_cons, String.join_cons, ih]
    cases hwritten : notice.isWritten logging with
    | true => rw [List.filter_cons_of_pos hwritten, List.map_cons, String.join_cons]
    | false =>
      rw [List.filter_cons_of_neg (by simp [hwritten]), Notice.line_of_not_isWritten hwritten,
        String.empty_append]

/-- What is written besides events is all that is said besides them. -/
theorem filter_written (logging : Log.Logging) (steps : List Step) :
    (written logging steps).filter (·.event?.isNone) =
      (said steps).filter (·.event?.isNone) := by
  rw [written, List.filter_filter]
  apply List.filter_congr
  intro notice _
  cases notice <;> rfl

theorem filterMap_written (logging : Log.Logging) (steps : List Step) :
    (written logging steps).filterMap Notice.event? = (events steps).filter logging.admits := by
  rw [written, events]
  induction said steps with
  | nil => rfl
  | cons notice rest ih =>
    cases notice with
    | event event =>
      have hwritten : Notice.isWritten logging (.event event) = logging.admits event := rfl
      rw [List.filterMap_cons_some (Notice.event?_event event), List.filter_cons,
        List.filter_cons, hwritten, ← ih]
      split
      · rw [List.filterMap_cons_some (Notice.event?_event event)]
      · rfl
    | unknownField _ _ | failure _ | usage _ =>
      rw [List.filter_cons_of_pos rfl, List.filterMap_cons_none rfl, List.filterMap_cons_none rfl,
        ih]

theorem events_append (steps others : List Step) :
    events (steps ++ others) = events steps ++ events others := by
  simp only [events, said_append, List.filterMap_append]

theorem events_eq_nil {steps : List Step} (h : ∀ event, Step.said (.event event) ∉ steps) :
    events steps = [] := by
  rw [events, List.filterMap_eq_nil_iff]
  intro notice member
  cases notice with
  | event event => exact absurd ((mem_filterMap_notice?_iff steps _).mp member) (h event)
  | unknownField _ _ | failure _ | usage _ => rfl

end Session

section Stages

open Session (events events_append)

variable {files : FileSystem} {path : Path} (refusal : Option IoError)

theorem events_interpret (files : FileSystem) (text : String) (path : Path) :
    events ((Config.interpret text path).play files refusal).2 =
      match (Config.parse text).result with
      | .error _ => []
      | .ok config => [.parsedConfig path config] := by
  have hwarnings : events ((Config.parse text).unknown.map
      fun field => Step.said (.unknownField path field)) = [] :=
    Session.events_eq_nil (by simp)
  rw [Config.play_interpret]
  cases (Config.parse text).result with
  | error problem => exact hwarnings
  | ok config =>
    rw [events_append, hwarnings]
    rfl

/-- A config is only reported as read if it gives settings. -/
theorem events_load_of_reads {config : Config} (h : files.Reads path config) :
    events ((Config.load path).play files refusal).2 = [.parsedConfig path config] := by
  obtain ⟨text, hcontents, hresult⟩ := h
  have hinterpret := events_interpret refusal files text path
  rw [hresult] at hinterpret
  rw [Config.load_of_text refusal hcontents]
  exact hinterpret

theorem events_load_of_rejects {problem : ConfigProblem} (h : files.Rejects path problem) :
    events ((Config.load path).play files refusal).2 = [] := by
  cases h with
  | unreadable hcontents =>
    simp only [Config.load, Session.play, hcontents, Session.play_pure]
    rfl
  | @notUtf8 bytes hcontents htext =>
    have hdecode : Utf8.decode? bytes = none := by
      rw [Option.eq_none_iff_forall_ne_some]
      exact fun text heq => htext text ((Utf8.decode?_eq_some_iff _ _).mp heq)
    simp only [Config.load, Session.play, hcontents, hdecode, Session.play_pure]
    rfl
  | @refused text _ hcontents hresult =>
    have hinterpret := events_interpret refusal files text path
    rw [hresult] at hinterpret
    rw [Config.load_of_text refusal hcontents]
    exact hinterpret

theorem events_settings_some (path : Path) :
    events ((Run.settings (some path)).play files refusal).2 =
      .loadingConfig path :: events ((Config.load path).play files refusal).2 := by
  simp only [Run.settings, Session.log, Session.play_bind, Session.play_notice]
  rfl

/-- A size is only reported once the file has been opened. -/
theorem events_measure_of_denies {reason : IoError} (h : files.Denies path reason) :
    events ((Artifact.measure path).play files refusal).2 = [] := by
  cases h with
  | missing hstatus =>
    simp only [Artifact.measure, Session.play, hstatus, Session.play_pure]
    rfl
  | notRegular hstatus hkind =>
    simp only [Artifact.measure, Session.play, hstatus, if_neg hkind, Session.play_pure]
    rfl
  | closed hstatus hopening =>
    simp only [Artifact.measure, Session.play, hstatus, hopening, if_true, Session.play_pure]
    rfl

theorem events_measure_of_weighs {size : UInt64} (h : files.Weighs path size) :
    events ((Artifact.measure path).play files refusal).2 = [.measured path size] := by
  rw [Artifact.measure_of_weighs refusal h]
  rfl

end Stages

namespace Situation

open Session (LeavesLike said)

variable (s : Situation)

/-- The same run with another filter, at another time. -/
def loggedBy (filter : Option Bytes) (time : String) : Situation :=
  { s with invocation :=
      { s.invocation with env := { s.invocation.env with log := filter }, time } }

def logging : Log.Logging :=
  .ofEnvironment s.invocation.env

/-- The notices that the run writes to standard error. -/
def written : List Notice :=
  Session.written s.logging s.steps

/-- The events that the run logs. -/
def logged : List Log.Event :=
  s.written.filterMap Notice.event?

/-- The lines that the run writes to standard error for the events it logs. -/
def linesOfLog (clock : String) : List String :=
  (s.written.filter (·.event?.isSome)).map (Notice.line s.logging clock)

/-- The lines that the run writes to standard error besides the events it logs. -/
def linesBesidesLog (clock : String) : List String :=
  (s.written.filter (·.event?.isNone)).map (Notice.line s.logging clock)

/-- The run attempts a report: it is no enquiry, and standard output is given a text, which it takes
or refuses. -/
def AttemptsReport : Prop :=
  ¬ s.IsEnquiry ∧ ∃ text, Step.wrote text ∈ s.steps ∨ Step.refused text ∈ s.steps

/-- The events of coming to the settings. -/
def settling (config : Config) : Option Path → List Log.Event
  | some path => [.loadingConfig path, .parsedConfig path config]
  | none => [.noConfig]

/-- All the events of a run that comes to its end. -/
def wholeTrail (found : Option Path) (config : Config) (artifact : Path) (size : UInt64) :
    List Log.Event :=
  settling config found ++
    [.checkingArtifact artifact, .measured artifact size, .judged (Budget.ota.judge size)]

/-- How far the run comes, with the events on its way: nowhere, to a config that cannot be read or
is refused, to an artifact that cannot be measured, or to a verdict. -/
inductive ComesTo : List Log.Event → Prop where
  | nothing : s.IsMisused ∨ s.IsEnquiry ∨ s.NamesNoFile → ComesTo []
  | config {options : Options} {path : Path} {problem : ConfigProblem} : s.Asks options →
      s.GoesBy path → s.IsRegular path → s.files.Rejects path problem →
      ComesTo [.loadingConfig path]
  | artifact {options : Options} {found : Option Path} {config : Config} {reason : IoError} :
      s.Settles options found config → s.files.Denies (s.artifact options found config) reason →
      ComesTo (settling config found ++ [.checkingArtifact (s.artifact options found config)])
  | verdict {options : Options} {found : Option Path} {config : Config} {size : UInt64} :
      s.Settles options found config → s.files.Weighs (s.artifact options found config) size →
      ComesTo (wholeTrail found config (s.artifact options found config) size)

variable {s} {options : Options} {found : Option Path} {config : Config} {size : UInt64}
  {trail : List Log.Event}

section Filters

variable (filter : Option Bytes) (later : String)

theorem GoesBy.loggedBy {path : Path} (h : s.GoesBy path) :
    (s.loggedBy filter later).GoesBy path := by
  cases h with
  | named hnamed => exact .named hnamed
  | found hnone hfinds => exact .found hnone hfinds

theorem Settles.loggedBy (h : s.Settles options found config) :
    (s.loggedBy filter later).Settles options found config := by
  have hstages := settles_iff.mp h
  exact settles_iff.mpr hstages

theorem sameButTime_report_loggedBy (s : Situation) (options : Options) (found : Option Path)
    (config : Config) (size : UInt64) :
    SameButTime s.invocation.time later (s.report options found config size)
      ((s.loggedBy filter later).report options found config size) := by
  obtain ⟨format, hprefers⟩ := exists_prefers options config
  cases format with
  | text =>
    rw [report_eq_text hprefers, report_eq_text hprefers]
    exact .same _
  | json =>
    rw [report_eq_json hprefers, report_eq_json hprefers]
    exact Report.sameButTime_json _ _ _ _

theorem Ending.exists_loggedBy {code : ExitCode} {ending : List Step}
    (h : s.Ending options found config code ending) :
    ∃ other, (s.loggedBy filter later).Ending options found config code other ∧
      LeavesLike s.invocation.time later ending other ∧ said other = said ending := by
  have hquiet := wrote_notMem_measuring s (s.artifact options found config)
  cases h with
  | unreadable hdenies => exact ⟨_, .unreadable hdenies, .refl _ _ _, rfl⟩
  | unreported hweighs hrefusal =>
    refine ⟨_, .unreported hweighs hrefusal, ?_, ?_⟩
    · exact ((Session.leavesLike_refused _ _ _).cons (by simp)).append hquiet
    · simp only [Session.said_append, Session.said_cons_said, Session.said_cons_refused]
      rfl
  | reported hweighs hrefusal =>
    have hreport := s.sameButTime_report_loggedBy filter later options found config
    refine ⟨_, .reported hweighs hrefusal, ?_, ?_⟩
    · exact ((Session.leavesLike_wrote (hreport _)).cons (by simp)).append hquiet
    · simp only [Session.said_append, Session.said_cons_said, Session.said_cons_wrote]
      rfl

/-- A filter does not change the way that a run goes. -/
theorem Course.exists_loggedBy {code : ExitCode} {steps : List Step} (h : s.Course code steps) :
    ∃ other, (s.loggedBy filter later).Course code other ∧
      LeavesLike s.invocation.time later steps other ∧ said other = said steps := by
  cases h with
  | misused hmisuses => exact ⟨_, .misused hmisuses, .refl _ _ _, rfl⟩
  | answered henquires hrefusal =>
    cases henquires with
    | help hparse => exact ⟨_, .answered (.help hparse) hrefusal, .refl _ _ _, rfl⟩
    | version hparse => exact ⟨_, .answered (.version hparse) hrefusal, .refl _ _ _, rfl⟩
  | unanswered henquires hrefusal =>
    cases henquires with
    | help hparse => exact ⟨_, .unanswered (.help hparse) hrefusal, .refl _ _ _, rfl⟩
    | version hparse => exact ⟨_, .unanswered (.version hparse) hrefusal, .refl _ _ _, rfl⟩
  | noFile hasks hnamed hregular => exact ⟨_, .noFile hasks hnamed hregular, .refl _ _ _, rfl⟩
  | rejected hasks hgoes hregular hrejects =>
    exact ⟨_, .rejected hasks (hgoes.loggedBy filter later) hregular hrejects, .refl _ _ _, rfl⟩
  | checked hsettles hending =>
    obtain ⟨other, hother, hlike, hsaid⟩ := hending.exists_loggedBy filter later
    refine ⟨_, .checked (hsettles.loggedBy filter later) hother, ?_, ?_⟩
    · exact leavesLike_lookups ((hlike.cons (by simp)).append (wrote_notMem_readings s _))
    · simp only [Session.said_append, Session.said_cons_said, hsaid]
      rfl

theorem said_loggedBy (s : Situation) : said (s.loggedBy filter later).steps = said s.steps := by
  obtain ⟨other, hcourse, -, hsaid⟩ := s.course.exists_loggedBy filter later
  rw [hcourse.steps_eq, hsaid]

end Filters

section Trails

open Session (events events_append)

theorem events_lookups (s : Situation) (options : Options) : events (s.lookups options) = [] := by
  apply Session.events_eq_nil
  intro event member
  obtain ⟨path, hpath⟩ := looked_of_mem_lookups member
  cases hpath

theorem Settles.events_readings (h : s.Settles options found config) :
    events (s.readings found) = settling config found := by
  cases h with
  | byFile _ _ _ hreads =>
    rw [readings, events_settings_some, events_load_of_reads s.refusal hreads]
    rfl
  | byDefault _ _ => rfl

theorem events_readings_of_rejects {path : Path} {problem : ConfigProblem}
    (h : s.files.Rejects path problem) :
    events (s.readings (some path)) = [.loadingConfig path] := by
  rw [readings, events_settings_some, events_load_of_rejects s.refusal h]

/-- The events of a check are those of its settings, the one that names its artifact, and those of
its ending. -/
theorem Settles.events_steps (h : s.Settles options found config) {code : ExitCode}
    {ending : List Step} (hending : s.Ending options found config code ending) :
    events s.steps = settling config found ++
      .checkingArtifact (s.artifact options found config) :: events ending := by
  rw [(Course.checked h hending).steps_eq, events_append, events_append, events_lookups,
    h.events_readings, List.nil_append]
  rfl

theorem events_steps_of_not_asks (h : ∀ options, ¬ s.Asks options) : events s.steps = [] := by
  have hcourse := s.course
  generalize s.exitCode = code at hcourse
  generalize s.steps = steps at hcourse ⊢
  cases hcourse with
  | misused _ => rfl
  | answered _ _ => rfl
  | unanswered _ _ => rfl
  | noFile hasks _ _ => exact absurd hasks (h _)
  | rejected hasks _ _ _ => exact absurd hasks (h _)
  | checked hsettles _ => exact absurd hsettles.asks (h _)

theorem events_steps_of_namesNoFile (h : s.NamesNoFile) : events s.steps = [] := by
  by_cases hasks : ∃ options, s.Asks options
  · obtain ⟨options, hasks⟩ := hasks
    obtain ⟨named, hnamed, hregular⟩ := h
    rw [(Course.noFile hasks hnamed hregular).steps_eq, events_append, events_lookups]
    rfl
  · exact events_steps_of_not_asks fun options h => hasks ⟨options, h⟩

theorem events_steps_of_unchecked (h : s.IsMisused ∨ s.IsEnquiry ∨ s.NamesNoFile) :
    events s.steps = [] := by
  rcases h with ⟨error, hmisuses⟩ | ⟨text, henquires⟩ | hfile
  · apply events_steps_of_not_asks
    intro options hasks
    cases hmisuses.symm.trans hasks
  · apply events_steps_of_not_asks
    intro options hasks
    cases henquires with
    | help hparse => cases hparse.symm.trans hasks
    | version hparse => cases hparse.symm.trans hasks
  · exact events_steps_of_namesNoFile hfile

theorem refused_notMem_lookups (s : Situation) (options : Options) (text : String) :
    Step.refused text ∉ s.lookups options := by
  intro member
  cases isPreparing_of_mem_lookups none member

theorem refused_notMem_readings (s : Situation) (found : Option Path) (text : String) :
    Step.refused text ∉ s.readings found := by
  intro member
  cases isPreparing_of_mem_readings member

theorem refused_notMem_measuring (s : Situation) (path : Path) (text : String) :
    Step.refused text ∉ s.measuring path := by
  intro member
  obtain ⟨steps, hsteps, hrest⟩ := exists_measuring s path
  rw [hsteps] at member
  rcases List.mem_cons.mp member with hlooked | member
  · cases hlooked
  · cases hrest _ member

/-- With an artifact that can be measured a run comes to its report, whatever becomes of that. -/
theorem attemptsReport_iff (s : Situation) : s.AttemptsReport ↔
    ∃ options found config size, s.Settles options found config ∧
      s.files.Weighs (s.artifact options found config) size := by
  constructor
  · rintro ⟨henquiry, text, hstep⟩
    have hcourse := s.course
    generalize s.exitCode = code at hcourse
    generalize s.steps = steps at hcourse hstep
    cases hcourse with
    | misused _ => simp at hstep
    | answered henquires _ => exact absurd ⟨_, henquires⟩ henquiry
    | unanswered henquires _ => exact absurd ⟨_, henquires⟩ henquiry
    | noFile _ _ _ => simp [wrote_notMem_lookups, refused_notMem_lookups] at hstep
    | rejected _ _ _ _ =>
      simp [wrote_notMem_lookups, refused_notMem_lookups, wrote_notMem_readings,
        refused_notMem_readings] at hstep
    | checked hsettles hending =>
      cases hending with
      | unreadable _ =>
        simp [wrote_notMem_lookups, refused_notMem_lookups, wrote_notMem_readings,
          refused_notMem_readings, wrote_notMem_measuring, refused_notMem_measuring] at hstep
      | unreported hweighs _ => exact ⟨_, _, _, _, hsettles, hweighs⟩
      | reported hweighs _ => exact ⟨_, _, _, _, hsettles, hweighs⟩
  · rintro ⟨options, found, config, size, hsettles, hweighs⟩
    refine ⟨hsettles.not_isEnquiry, s.report options found config size, ?_⟩
    cases hrefusal : s.refusal with
    | none =>
      rw [(Course.checked hsettles (.reported hweighs hrefusal)).steps_eq]
      simp
    | some reason =>
      rw [(Course.checked hsettles (.unreported hweighs hrefusal)).steps_eq]
      simp

theorem events_steps_of_weighs (hsettles : s.Settles options found config)
    (hweighs : s.files.Weighs (s.artifact options found config) size) :
    events s.steps = wholeTrail found config (s.artifact options found config) size := by
  have hmeasure := events_measure_of_weighs s.refusal hweighs
  cases hrefusal : s.refusal with
  | none =>
    rw [hsettles.events_steps (.reported hweighs hrefusal), events_append, measuring, hmeasure]
    rfl
  | some reason =>
    rw [hsettles.events_steps (.unreported hweighs hrefusal), events_append, measuring, hmeasure]
    rfl

/-- A run comes exactly as far as its events say. -/
theorem comesTo_iff (s : Situation) (trail : List Log.Event) :
    s.ComesTo trail ↔ events s.steps = trail := by
  have hevents : ∀ {trail}, s.ComesTo trail → events s.steps = trail := by
    intro trail h
    cases h with
    | nothing h => exact events_steps_of_unchecked h
    | config hasks hgoes hregular hrejects =>
      rw [(Course.rejected hasks hgoes hregular hrejects).steps_eq, events_append, events_lookups,
        events_append, events_readings_of_rejects hrejects]
      rfl
    | artifact hsettles hdenies =>
      rw [hsettles.events_steps (.unreadable hdenies), events_append, measuring,
        events_measure_of_denies s.refusal hdenies]
      rfl
    | verdict hsettles hweighs => exact events_steps_of_weighs hsettles hweighs
  have hsome : ∃ trail, s.ComesTo trail := by
    have hcourse := s.course
    generalize s.exitCode = code at hcourse
    generalize s.steps = steps at hcourse
    cases hcourse with
    | misused hmisuses => exact ⟨_, .nothing (.inl ⟨_, hmisuses⟩)⟩
    | answered henquires _ => exact ⟨_, .nothing (.inr (.inl ⟨_, henquires⟩))⟩
    | unanswered henquires _ => exact ⟨_, .nothing (.inr (.inl ⟨_, henquires⟩))⟩
    | noFile _ hnamed hregular => exact ⟨_, .nothing (.inr (.inr ⟨_, hnamed, hregular⟩))⟩
    | rejected hasks hgoes hregular hrejects => exact ⟨_, .config hasks hgoes hregular hrejects⟩
    | checked hsettles hending =>
      cases hending with
      | unreadable hdenies => exact ⟨_, .artifact hsettles hdenies⟩
      | unreported hweighs _ => exact ⟨_, .verdict hsettles hweighs⟩
      | reported hweighs _ => exact ⟨_, .verdict hsettles hweighs⟩
  refine ⟨hevents, ?_⟩
  rintro rfl
  obtain ⟨trail, htrail⟩ := hsome
  rw [hevents htrail]
  exact htrail

/-- What a run comes by is the beginning of what a run comes by that comes to its end. -/
theorem ComesTo.exists_wholeTrail (h : s.ComesTo trail) :
    ∃ found config artifact size, trail <+: wholeTrail found config artifact size := by
  cases h with
  | nothing _ => exact ⟨none, {}, ⟨[]⟩, 0, List.nil_prefix⟩
  | @config _ path _ _ _ _ _ =>
    exact ⟨some path, {}, ⟨[]⟩, 0, List.prefix_append [Log.Event.loadingConfig path] _⟩
  | @artifact options found config _ _ _ =>
    refine ⟨found, config, s.artifact options found config, 0, ?_⟩
    rw [wholeTrail, List.prefix_append_right_inj]
    exact List.prefix_append [Log.Event.checkingArtifact _] _
  | verdict _ _ => exact ⟨_, _, _, _, List.prefix_rfl⟩

/-- The trail of a run is whole exactly if it comes to its report. -/
theorem attemptsReport_iff_wholeTrail (s : Situation) : s.AttemptsReport ↔
    ∃ found config artifact size, events s.steps = wholeTrail found config artifact size := by
  rw [attemptsReport_iff]
  constructor
  · rintro ⟨options, found, config, size, hsettles, hweighs⟩
    exact ⟨found, config, _, size, events_steps_of_weighs hsettles hweighs⟩
  · rintro ⟨found, config, artifact, size, hevents⟩
    have hcomes := (comesTo_iff s _).mpr hevents
    -- Only the trail to a verdict is as long as a whole one.
    have hlength : 4 ≤ (wholeTrail found config artifact size).length := by
      cases found <;> simp [wholeTrail, settling]
    generalize wholeTrail found config artifact size = trail at hcomes hlength
    cases hcomes with
    | nothing _ => simp at hlength
    | config _ _ _ _ => simp at hlength
    | @artifact _ found _ _ _ _ => cases found <;> simp [settling] at hlength
    | verdict hsettles hweighs => exact ⟨_, _, _, _, hsettles, hweighs⟩

end Trails

theorem logged_eq (s : Situation) :
    s.logged = (Session.events s.steps).filter s.logging.admits := by
  rw [logged, written, Session.filterMap_written]

/-- A filter that asks for everything leaves nothing out. -/
theorem logged_everything (s : Situation) (time : String) :
    (s.loggedBy Log.everything time).logged =
      Session.events (s.loggedBy Log.everything time).steps := by
  rw [logged_eq, List.filter_eq_self]
  intro event _
  exact Log.admits_everything rfl event

theorem linesBesidesLog_loggedBy (s : Situation) (filter : Option Bytes) (later clock : String)
    (tick : String) :
    (s.loggedBy filter later).linesBesidesLog tick = s.linesBesidesLog clock := by
  rw [linesBesidesLog, linesBesidesLog, written, written, Session.filter_written,
    Session.filter_written, said_loggedBy]
  apply List.map_congr_left
  intro notice member
  have hevent := (List.mem_filter.mp member).2
  exact Notice.line_of_event?_eq_none (Option.isNone_iff_eq_none.mp hevent) _ _ _ _

end Situation

end SizeGate
