import SizeGate.Proofs.Report.Figures
import SizeGate.Proofs.Streams

/-!
Both formats and the exit code tell the same of a check.

Main statement: the figures that are read back from what a run reports are the size that was
measured, the budget of every run and the verdict, in either format, and the exit code is that of
the same verdict (`reports_agree`). So no two sizes have the same report, and the exit code does not
depend on the format.
-/

namespace SizeGate

open CommandLine (Options)
open Session (Step)

namespace Figures

/-- The figures of an artifact of `size` bytes, with every number of the budget spelled out. -/
def ota (size : UInt64) : Figures where
  size := size.toNat
  limit := 4718592
  slot := 4980736
  margin := 262144
  fits := size.toNat ≤ 4718592

theorem ofVerdict_ota (size : UInt64) : ofVerdict (Budget.ota.judge size) = ota size := by
  have hslot : Budget.ota.slot.toNat = 4980736 := by decide
  have hmargin : Budget.ota.margin.toNat = 262144 := by decide
  have hlimit : Budget.ota.limit.toNat = 4718592 := by decide
  rw [ofVerdict, Report.fits_ota, ota]
  simp only [Budget.judge, hslot, hmargin, hlimit]

theorem ota_inj {size other : UInt64} (h : ota size = ota other) : size = other :=
  UInt64.toNat_inj.mp (congrArg Figures.size h)

theorem limit_add_margin {verdict : Verdict} {figures : Figures}
    (h : some (ofVerdict verdict) = some figures) :
    figures.limit + figures.margin = figures.slot := by
  cases h
  have hle : verdict.budget.margin.toNat ≤ verdict.budget.slot.toNat :=
    verdict.budget.margin_le_slot
  have hlimit := verdict.budget.limit_toNat
  simp only [ofVerdict]
  omega

theorem ofText?_ota (colored : Bool) (size : UInt64) :
    ofText? (Report.text colored (Budget.ota.judge size)) = some (ota size) := by
  rw [ofText?_text, ofVerdict_ota]

theorem ofJson?_ota (time : String) (artifact : Path) (size : UInt64) :
    ofJson? (Report.json time artifact (Budget.ota.judge size)) = some (ota size) := by
  rw [ofJson?_json, ofVerdict_ota]

theorem text_ota_inj {colored tinted : Bool} {size other : UInt64}
    (h : Report.text colored (Budget.ota.judge size) =
      Report.text tinted (Budget.ota.judge other)) : size = other := by
  have hread := congrArg ofText? h
  rw [ofText?_ota, ofText?_ota] at hread
  exact ota_inj (Option.some.inj hread)

theorem json_ota_inj {time later : String} {artifact second : Path} {size other : UInt64}
    (h : Report.json time artifact (Budget.ota.judge size) =
      Report.json later second (Budget.ota.judge other)) : size = other := by
  have hread := congrArg ofJson? h
  rw [ofJson?_ota, ofJson?_ota] at hread
  exact ota_inj (Option.some.inj hread)

end Figures

namespace Situation

variable {s t : Situation} {options : Options} {found : Option Path} {config : Config}
  {size : UInt64} {format : Format}

/-- Two runs see files of the same sizes from the same directory, and what they write is taken or
refused alike. -/
structure Alike (s t : Situation) : Prop where
  cwd : t.invocation.cwd = s.invocation.cwd
  status : t.files.status = s.files.status
  opening : t.files.opening = s.files.opening
  refusal : t.refusal = s.refusal

/-- Both runs check the same, and what differs is at most the format that an argument or the config
asks for. -/
inductive DifferInFormat (s t : Situation) : Prop where
  | argument {options : Options} {format : Option Format} : s.Asks options →
      t.Asks { options with output := format } → Alike s t →
      t.files.contents = s.files.contents → DifferInFormat s t
  | config {options : Options} {found : Option Path} {config : Config} {format : Option Format} :
      s.Settles options found config → t.Settles options found { config with format := format } →
      Alike s t → DifferInFormat s t

theorem read?_report (h : Prefers options config format) :
    Figures.read? format (s.report options found config size) = some (Figures.ota size) := by
  rw [report, Run.report, h.output_eq]
  cases format with
  | text => exact Figures.ofText?_ota _ size
  | json => exact Figures.ofJson?_ota _ _ size

theorem Reports.standardOutput_eq (h : s.Reports options found config size) :
    Session.standardOutput s.steps = s.report options found config size := by
  obtain ⟨before, hsteps, hquiet, -⟩ := h.exists_steps
  rw [hsteps, Session.standardOutput_append, Session.standardOutput_eq_empty hquiet]
  simp [Session.standardOutput]

theorem reports_of_weighs (hsettles : s.Settles options found config)
    (hweighs : s.files.Weighs (s.artifact options found config) size)
    (hrefusal : s.refusal = none) :
    s.Reports options found config size := by
  refine ⟨hsettles, hweighs, ?_⟩
  rw [(Course.checked hsettles (.reported hweighs hrefusal)).steps_eq]
  simp

theorem Alike.files_eq (h : Alike s t) (hcontents : t.files.contents = s.files.contents) :
    t.files = s.files := by
  have heta : ∀ files : FileSystem, files = ⟨files.status, files.opening, files.contents⟩ :=
    fun _ => rfl
  rw [heta t.files, h.status, h.opening, hcontents]

theorem Alike.weighs {path : Path} (h : Alike s t) (hweighs : s.files.Weighs path size) :
    t.files.Weighs path size := by
  rw [FileSystem.Weighs, h.status, h.opening]
  exact hweighs

theorem Alike.denies {path : Path} {reason : IoError} (h : Alike s t)
    (hdenies : s.files.Denies path reason) : t.files.Denies path reason := by
  cases hdenies with
  | missing hstatus => exact .missing (h.status ▸ hstatus)
  | notRegular hstatus hkind => exact .notRegular (h.status ▸ hstatus) hkind
  | closed hstatus hopening => exact .closed (h.status ▸ hstatus) (h.opening ▸ hopening)

/-- How a check ends goes by its artifact, whatever else its options and its config say. -/
theorem Ending.exists_of_alike {others : Options} {settings : Config} {code : ExitCode}
    {ending : List Step} (h : s.Ending options found config code ending) (halike : Alike s t)
    (hartifact : others.artifact = options.artifact)
    (hsettings : settings.artifact = config.artifact) :
    ∃ steps, t.Ending others found settings code steps := by
  have hsame : t.artifact others found settings = s.artifact options found config := by
    rw [artifact, artifact, Run.configured, Run.configured, hartifact, hsettings, halike.cwd]
  cases h with
  | unreadable hdenies => exact ⟨_, .unreadable (hsame ▸ halike.denies hdenies)⟩
  | unreported hweighs hreason =>
    exact ⟨_, .unreported (hsame ▸ halike.weighs hweighs) (halike.refusal.trans hreason)⟩
  | reported hweighs hnone =>
    exact ⟨_, .reported (hsame ▸ halike.weighs hweighs) (halike.refusal.trans hnone)⟩

theorem exitCode_of_asks (h : s.Asks options) :
    s.exitCode = ((Run.perform s.invocation options).play s.files s.refusal).1 := by
  rw [Asks] at h
  rw [exitCode, run, h]

/-- The options but for the format lead to the same config, and from there to the same ending. -/
theorem DifferInFormat.exitCode_eq (h : DifferInFormat s t) : t.exitCode = s.exitCode := by
  cases h with
  | @argument options format hasks hother halike hcontents =>
    have hfiles := halike.files_eq hcontents
    rw [exitCode_of_asks hasks, exitCode_of_asks hother, hfiles, halike.refusal]
    simp only [Run.perform, Session.play_bind, halike.cwd]
    cases ((Discovery.resolveConfig options.config s.invocation.cwd).play s.files s.refusal).1 with
    | error failure => rfl
    | ok found =>
      simp only [Session.play_bind]
      cases ((Run.settings found).play s.files s.refusal).1 with
      | error failure => rfl
      | ok config =>
        obtain ⟨code, ending, hending⟩ := s.exists_ending options found config
        have hsame : ∃ steps, t.Ending { options with output := format } found config code steps :=
          hending.exists_of_alike halike rfl rfl
        obtain ⟨steps, hsame⟩ := hsame
        have hplay := hsame.play_eq
        rw [hfiles, halike.refusal] at hplay
        simp only [hplay, hending.play_eq]
  | @config options found config format hsettles hother halike =>
    obtain ⟨code, ending, hending⟩ := s.exists_ending options found config
    have hsame : ∃ steps, t.Ending options found { config with format := format } code steps :=
      hending.exists_of_alike halike rfl rfl
    obtain ⟨steps, hsame⟩ := hsame
    rw [(Course.checked hsettles hending).exitCode_eq, (Course.checked hother hsame).exitCode_eq]

end Situation

namespace Figures

open Situation (Prefers DifferInFormat)

/-- The report for people in color or without, the report for programs, and what a run writes in the
format it prefers are all read back as the size that was measured, the figures of the one budget
there is and the verdict on them, and the exit code goes by that verdict: 0 for an artifact that
fits and 2 for one that does not. Within a format reports of different sizes are different, whatever
the color, the time and the path. The limit in a report, whatever the budget, is
its slot less its margin, and the format that is chosen does not change the exit code. -/
theorem reports_agree :
    (∀ (size : UInt64) (colored : Bool),
      ofText? (Report.text colored (Budget.ota.judge size)) = some (ota size)) ∧
    (∀ (size : UInt64) (time : String) (artifact : Path),
      ofJson? (Report.json time artifact (Budget.ota.judge size)) = some (ota size)) ∧
    (∀ (s : Situation) (options : Options) (found : Option Path) (config : Config) (size : UInt64)
      (format : Format), s.Settles options found config →
      s.files.Weighs (s.artifact options found config) size → s.refusal = none →
      Prefers options config format →
      read? format (Session.standardOutput s.steps) = some (ota size) ∧
      s.exitCode.number = if (ota size).fits then 0 else 2) ∧
    (∀ (size other : UInt64) (colored tinted : Bool), size ≠ other →
      Report.text colored (Budget.ota.judge size) ≠ Report.text tinted (Budget.ota.judge other)) ∧
    (∀ (size other : UInt64) (time later : String) (artifact second : Path), size ≠ other →
      Report.json time artifact (Budget.ota.judge size) ≠
        Report.json later second (Budget.ota.judge other)) ∧
    (∀ (verdict : Verdict) (colored : Bool) (figures : Figures),
      ofText? (Report.text colored verdict) = some figures →
      figures.limit + figures.margin = figures.slot) ∧
    (∀ (verdict : Verdict) (time : String) (artifact : Path) (figures : Figures),
      ofJson? (Report.json time artifact verdict) = some figures →
      figures.limit + figures.margin = figures.slot) ∧
    ∀ s t : Situation, DifferInFormat s t → t.exitCode = s.exitCode := by
  refine ⟨fun size colored => ofText?_ota colored size,
    fun size time artifact => ofJson?_ota time artifact size, ?_, ?_, ?_, ?_, ?_,
    fun s t h => h.exitCode_eq⟩
  · intro s options found config size format hsettles hweighs hrefusal hprefers
    have hreports := Situation.reports_of_weighs hsettles hweighs hrefusal
    constructor
    · rw [hreports.standardOutput_eq, Situation.read?_report hprefers]
    · rw [hreports.exitCode_eq, Run.codeOf, Report.fits_ota, ota]
      split <;> rfl
  · intro size other colored tinted hne heq
    exact hne (text_ota_inj heq)
  · intro size other time later artifact second hne heq
    exact hne (json_ota_inj heq)
  · intro verdict colored figures h
    rw [ofText?_text] at h
    exact limit_add_margin h
  · intro verdict time artifact figures h
    rw [ofJson?_json] at h
    exact limit_add_margin h

/-- A run without a config on an artifact of one byte more than fits. -/
private def overrun (args : List String) : Situation where
  invocation :=
    ⟨args.map fun arg => Utf8.encode arg.toList, {}, .ofString "/w", false, false, ""⟩
  files :=
    { status := fun path =>
        if path = .ofString "/w/app.bin" then .ok ⟨.regular, 4718593⟩ else .error (.os 2)
      opening := fun _ => .ok ()
      contents := fun _ => .error (.os 2) }
  refusal := none

private theorem settles_overrun {args : List String} {options : Options}
    (hasks : (overrun args).Asks options) (hconfig : options.config = none) :
    (overrun args).Settles options none {} := by
  refine .byDefault hasks fun path hgoes => ?_
  have hsearch : ((Discovery.search (overrun []).invocation.cwd.ancestors).play
      (overrun []).files none).1 = none := by decide +kernel
  cases hgoes with
  | named hnamed =>
    have hsome := (Situation.namesConfig_iff hasks _).mp hnamed
    cases hconfig.symm.trans hsome
  | found _ hfinds =>
    have hfound := (Discovery.search_ancestors_eq_some_iff _ none _ _).mpr hfinds
    cases hsearch.symm.trans hfound

theorem overrun_reported_as_json :
    read? .json (Session.standardOutput
      (overrun ["-o=json", "app.bin"]).steps) = some (ota 4718593) ∧
    (overrun ["-o=json", "app.bin"]).exitCode.number = 2 ∧
    (overrun ["-o=json", "app.bin"]).exitCode =
      (overrun ["app.bin"]).exitCode := by
  have hplain : (overrun ["app.bin"]).Asks { artifact := some (.ofString "app.bin") } := by
    unfold Situation.Asks
    decide +kernel
  have hjson : (overrun ["-o=json", "app.bin"]).Asks
      { artifact := some (.ofString "app.bin"), output := some .json } := by
    unfold Situation.Asks
    decide +kernel
  have hartifact : (overrun ["-o=json", "app.bin"]).artifact
      { artifact := some (.ofString "app.bin"), output := some .json } none {} =
        .ofString "/w/app.bin" := by decide +kernel
  have hweighs : (overrun ["-o=json", "app.bin"]).files.Weighs
      (.ofString "/w/app.bin") 4718593 := by
    simp [overrun, FileSystem.Weighs]
  rw [← hartifact] at hweighs
  obtain ⟨-, -, hrun, -, -, -, -, hformat⟩ := reports_agree
  obtain ⟨hread, hcode⟩ :=
    hrun _ _ _ _ _ _ (settles_overrun hjson rfl) hweighs rfl (.flag rfl)
  exact ⟨hread, hcode, hformat _ _ (.argument hplain hjson ⟨rfl, rfl, rfl, rfl⟩ rfl)⟩

end Figures

end SizeGate
