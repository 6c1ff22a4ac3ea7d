import SizeGate.Proofs.SameRun

/-!
What color does to a run, and what it leaves alone.

Everything that decides on color may differ between two runs: both flags, the whole environment and
the terminals. Main statement: of runs that report on the same artifact the exit code is the same,
and so is the report once its escape sequences are taken out; these stand around the word of the
verdict and nowhere else, in text only, and never where color was declined
(`color_only_around_verdict`).
-/

namespace SizeGate

open CommandLine (Options)
open Figures (withoutColor)

namespace Report

/-- The first two lines of the report for people on an artifact of `size` bytes. -/
def figureLines (size : UInt64) : String :=
  "App binary: " ++ Decimal.ofNat size.toNat ++ " bytes\n"
    ++ "Budget:     4718592 bytes (slot 4980736 - margin 262144)\n"

/-- The report for people that never had any color. -/
def plain (size : UInt64) : String :=
  figureLines size ++ verdictLine false (size.toNat ≤ 4718592)

/-- The text is nothing but escape sequences. -/
def IsEscapes (text : String) : Prop :=
  withoutColor false text.toList = []

theorem text_eq_figureLines (colored : Bool) (size : UInt64) :
    text colored (Budget.ota.judge size) =
      figureLines size ++ verdictLine colored (size.toNat ≤ 4718592) :=
  text_ota colored size

theorem withoutColor_text_ota (colored : Bool) (size : UInt64) :
    withoutColor false (text colored (Budget.ota.judge size)).toList = (plain size).toList := by
  rw [Figures.withoutColor_text, text_eq_figureLines, plain]

theorem escape_notMem_figureLines (size : UInt64) : '\x1b' ∉ (figureLines size).toList := by
  have hwords : '\x1b' ∉ "App binary: ".toList ∧ '\x1b' ∉ " bytes\n".toList ∧
      '\x1b' ∉ "Budget:     4718592 bytes (slot 4980736 - margin 262144)\n".toList := by
    decide +kernel
  unfold figureLines
  repeat rw [String.toList_append, List.mem_append, not_or]
  exact ⟨⟨⟨hwords.1, Figures.not_mem_ofNat rfl _⟩, hwords.2.1⟩, hwords.2.2⟩

/-- A line with a verdict is its word and its explanation, with escape sequences directly around the
word if it is in color. -/
theorem exists_verdictLine_eq (colored fits : Bool) : ∃ opening closing,
    verdictLine colored fits = opening ++ word fits ++ closing ++ explanation fits ∧
      IsEscapes opening ∧ IsEscapes closing := by
  unfold IsEscapes
  cases colored with
  | false =>
    refine ⟨"", "", ?_, by decide, by decide⟩
    cases fits <;> decide
  | true =>
    refine ⟨"\x1b[0m\x1b[1m\x1b[" ++ colorOf fits ++ "m", "\x1b[0m", ?_, ?_, by decide⟩
    · cases fits <;> decide
    · cases fits <;> decide +kernel

theorem escape_notMem_word (fits : Bool) :
    '\x1b' ∉ (word fits).toList ∧ '\x1b' ∉ (explanation fits).toList := by
  cases fits <;> decide +kernel

theorem escape_notMem_plain (size : UInt64) : '\x1b' ∉ (plain size).toList := by
  have hverdict : ∀ fits, '\x1b' ∉ (verdictLine false fits).toList := by decide +kernel
  rw [plain, String.toList_append, List.mem_append, not_or]
  exact ⟨escape_notMem_figureLines size, hverdict _⟩

theorem escape_notMem_json (time : String) (artifact : Path) (verdict : Verdict) :
    '\x1b' ∉ (json time artifact verdict).toList := by
  have hcount := count_json (c := '\x1b') time artifact verdict (by decide)
  exact List.count_eq_zero.mp hcount

end Report

namespace Situation

variable {s t : Situation} {options others : Options} {found : Option Path} {config : Config}
  {size : UInt64}

/-- Two checks with these options see the same files from the same directory and are asked for the
same artifact, config and format. The flags for color may differ, and so may the environments, the
terminals and the times. -/
structure DifferInColor (s t : Situation) (options others : Options) : Prop where
  asks : s.Asks options
  asks_others : t.Asks others
  options_eq : others = { options with color := others.color, noColor := others.noColor }
  alike : Alike s t
  contents : t.files.contents = s.files.contents

/-- Color is declined: by the flag against it, or by the environment where there is no flag. -/
def DeclinesColor (s : Situation) (options : Options) : Prop :=
  options.noColor = true ∨
    options.color = false ∧ options.noColor = false ∧ s.invocation.env.noColor.isSome

theorem isColored_of_declines (h : s.DeclinesColor options) : s.isColored options = false := by
  rcases h with hflag | ⟨hcolor, hflag, henv⟩
  · simp [isColored, Color.resolve, hflag, Color.shows]
  · simp [isColored, Color.resolve, hflag, hcolor, henv, Color.shows]

theorem DifferInColor.artifact_eq (h : DifferInColor s t options others) :
    t.artifact others found config = s.artifact options found config := by
  rw [artifact, artifact, h.options_eq, h.alike.cwd]

theorem DifferInColor.settles (h : DifferInColor s t options others)
    (hsettles : s.Settles options found config) : t.Settles others found config := by
  have hfiles := h.alike.files_eq h.contents
  refine settles_iff.mpr ⟨h.asks_others, ?_, ?_⟩
  · rw [h.options_eq, h.alike.cwd, hfiles, h.alike.refusal]
    exact hsettles.resolveConfig
  · rw [hfiles, h.alike.refusal]
    exact hsettles.settings

theorem DifferInColor.weighs (h : DifferInColor s t options others)
    (hweighs : s.files.Weighs (s.artifact options found config) size) :
    t.files.Weighs (t.artifact others found config) size := by
  rw [h.artifact_eq]
  exact h.alike.weighs hweighs

theorem standardOutput_of_refusal {reason : IoError} (h : s.refusal = some reason) :
    Session.standardOutput s.steps = "" := by
  apply Session.standardOutput_eq_empty
  intro text member
  cases h.symm.trans (wrote_of_mem_steps member).1

theorem Reports.withoutColor_standardOutput (h : s.Reports options found config size)
    (hprefers : Prefers options config .text) :
    withoutColor false (Session.standardOutput s.steps).toList = (Report.plain size).toList := by
  rw [h.standardOutput_eq, report_eq_text hprefers, Report.withoutColor_text_ota]

/-- In text, the only escape sequences are those around the word of the verdict. -/
theorem Reports.exists_escapes (h : s.Reports options found config size)
    (hprefers : Prefers options config .text) : ∃ opening closing,
    Session.standardOutput s.steps = Report.figureLines size ++
        (opening ++ Report.word (size.toNat ≤ 4718592) ++ closing ++
          Report.explanation (size.toNat ≤ 4718592)) ∧
      Report.IsEscapes opening ∧ Report.IsEscapes closing := by
  obtain ⟨opening, closing, hline, hescapes⟩ :=
    Report.exists_verdictLine_eq (s.isColored options) (size.toNat ≤ 4718592)
  refine ⟨opening, closing, ?_, hescapes⟩
  rw [h.standardOutput_eq, report_eq_text hprefers, Report.text_eq_figureLines, hline]

theorem Reports.escape_notMem_of_json (h : s.Reports options found config size)
    (hprefers : Prefers options config .json) :
    '\x1b' ∉ (Session.standardOutput s.steps).toList := by
  rw [h.standardOutput_eq, report_eq_json hprefers]
  exact Report.escape_notMem_json _ _ _

theorem Reports.escape_notMem_of_declines (h : s.Reports options found config size)
    (hdeclines : s.DeclinesColor options) :
    '\x1b' ∉ (Session.standardOutput s.steps).toList := by
  obtain ⟨format, hprefers⟩ := exists_prefers options config
  cases format with
  | text =>
    rw [h.standardOutput_eq, report_eq_text hprefers, isColored_of_declines hdeclines,
      Report.text_eq_figureLines]
    exact Report.escape_notMem_plain size
  | json => exact h.escape_notMem_of_json hprefers

/-- Two runs that come to report on the same artifact, and differ at most in what decides on color,
end with the same code. In text they leave the same on standard output once the escape sequences
are taken out, and in JSON the same but for the time. What a report in text is then are its three
lines as without any color; its escape sequences stand directly around the word of the verdict. A
report in JSON has none, and neither has one where color is declined. -/
theorem color_only_around_verdict :
    (∀ (s t : Situation) (options others : Options) (found : Option Path) (config : Config)
      (size : UInt64), DifferInColor s t options others → s.Settles options found config →
      s.files.Weighs (s.artifact options found config) size →
      t.exitCode = s.exitCode ∧
      (s.Reports options found config size → t.Reports others found config size) ∧
      (Prefers options config .text →
        withoutColor false (Session.standardOutput t.steps).toList =
          withoutColor false (Session.standardOutput s.steps).toList) ∧
      (Prefers options config .json →
        Report.SameButTime s.invocation.time t.invocation.time
          (Session.standardOutput s.steps) (Session.standardOutput t.steps))) ∧
    ∀ (s : Situation) (options : Options) (found : Option Path) (config : Config) (size : UInt64),
      s.Reports options found config size →
      (Prefers options config .json → '\x1b' ∉ (Session.standardOutput s.steps).toList) ∧
      (Prefers options config .text →
        withoutColor false (Session.standardOutput s.steps).toList =
          (Report.plain size).toList ∧
        ∃ opening closing,
          Session.standardOutput s.steps = Report.figureLines size ++
              (opening ++ Report.word (size.toNat ≤ 4718592) ++ closing ++
                Report.explanation (size.toNat ≤ 4718592)) ∧
            Report.IsEscapes opening ∧ Report.IsEscapes closing) ∧
      '\x1b' ∉ (Report.figureLines size).toList ∧
      (∀ fits, '\x1b' ∉ (Report.word fits).toList ∧ '\x1b' ∉ (Report.explanation fits).toList) ∧
      (s.DeclinesColor options → '\x1b' ∉ (Session.standardOutput s.steps).toList) := by
  constructor
  · intro s t options others found config size hdiffer hsettles hweighs
    have hothers := hdiffer.settles hsettles
    have hweighed := hdiffer.weighs hweighs
    have houtput : others.output = options.output := by rw [hdiffer.options_eq]
    cases hrefusal : s.refusal with
    | none =>
      have hreports := reports_of_weighs hsettles hweighs hrefusal
      have hreported := reports_of_weighs hothers hweighed (hdiffer.alike.refusal.trans hrefusal)
      refine ⟨hreported.exitCode_eq.trans hreports.exitCode_eq.symm, fun _ => hreported, ?_, ?_⟩
      · intro hprefers
        rw [hreports.withoutColor_standardOutput hprefers,
          hreported.withoutColor_standardOutput (hprefers.of_output_eq houtput)]
      · intro hprefers
        rw [hreports.standardOutput_eq, hreported.standardOutput_eq, report_eq_json hprefers,
          report_eq_json (hprefers.of_output_eq houtput), hdiffer.artifact_eq]
        exact Report.sameButTime_json _ _ _ _
    | some reason =>
      have hrefused := hdiffer.alike.refusal.trans hrefusal
      have hcode := (Course.checked hsettles (.unreported hweighs hrefusal)).exitCode_eq
      have hother := (Course.checked hothers (.unreported hweighed hrefused)).exitCode_eq
      rw [standardOutput_of_refusal hrefusal, standardOutput_of_refusal hrefused]
      refine ⟨hother.trans hcode.symm, fun hreports => ?_, fun _ => rfl, fun _ => .same ""⟩
      cases hrefusal.symm.trans (wrote_of_mem_steps hreports.2.2).1
  · intro s options found config size hreports
    refine ⟨hreports.escape_notMem_of_json, fun hprefers => ?_,
      Report.escape_notMem_figureLines size, Report.escape_notMem_word,
      hreports.escape_notMem_of_declines⟩
    exact ⟨hreports.withoutColor_standardOutput hprefers, hreports.exists_escapes hprefers⟩

/-- A run on an artifact that fits, with or without color. -/
private def lighted (args : List String) (noColor : Option Bytes) : Situation where
  invocation :=
    ⟨args.map fun arg => Utf8.encode arg.toList, { noColor }, .ofString "/w", false, false, ""⟩
  files :=
    { status := fun path =>
        if path = .ofString "/w/app.bin" then .ok ⟨.regular, 7⟩ else .error (.os 2)
      opening := fun _ => .ok ()
      contents := fun _ => .error (.os 2) }
  refusal := none

theorem lighted_same_without_color :
    withoutColor false (Session.standardOutput (lighted ["app.bin"] (some [])).steps).toList =
      (Report.plain 7).toList ∧
    withoutColor false
        (Session.standardOutput (lighted ["--color", "app.bin"] (some [])).steps).toList =
      withoutColor false
        (Session.standardOutput (lighted ["app.bin"] (some [])).steps).toList ∧
    '\x1b' ∉ (Session.standardOutput (lighted ["app.bin"] (some [])).steps).toList := by
  have hasks : (lighted ["app.bin"] (some [])).Asks { artifact := some (.ofString "app.bin") } := by
    unfold Asks
    decide +kernel
  have hothers : (lighted ["--color", "app.bin"] (some [])).Asks
      { artifact := some (.ofString "app.bin"), color := true } := by
    unfold Asks
    decide +kernel
  have hsettles : (lighted ["app.bin"] (some [])).Settles
      { artifact := some (.ofString "app.bin") } none {} :=
    settles_iff.mpr ⟨hasks, eq_ok_of_toOption_eq_some (by decide +kernel), rfl⟩
  have hartifact : (lighted ["app.bin"] (some [])).artifact
      { artifact := some (.ofString "app.bin") } none {} = .ofString "/w/app.bin" := by
    decide +kernel
  have hweighs : (lighted ["app.bin"] (some [])).files.Weighs (.ofString "/w/app.bin") 7 := by
    simp [lighted, FileSystem.Weighs]
  rw [← hartifact] at hweighs
  have hdiffer : DifferInColor (lighted ["app.bin"] (some []))
      (lighted ["--color", "app.bin"] (some [])) { artifact := some (.ofString "app.bin") }
      { artifact := some (.ofString "app.bin"), color := true } :=
    ⟨hasks, hothers, rfl, ⟨rfl, rfl, rfl, rfl⟩, rfl⟩
  have hprefers : Prefers { artifact := some (.ofString "app.bin") } {} .text :=
    .default rfl rfl
  obtain ⟨htwo, hone⟩ := color_only_around_verdict
  obtain ⟨-, -, htext, -⟩ := htwo _ _ _ _ _ _ _ hdiffer hsettles hweighs
  obtain ⟨-, hplain, -, -, hdeclines⟩ :=
    hone _ _ _ _ _ (reports_of_weighs hsettles hweighs rfl)
  exact ⟨(hplain hprefers).1, htext hprefers, hdeclines (.inr ⟨rfl, rfl, rfl⟩)⟩

end Situation

end SizeGate
