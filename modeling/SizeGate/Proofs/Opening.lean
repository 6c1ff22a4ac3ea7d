import SizeGate.Proofs.Guarded
import SizeGate.Proofs.Streams

/-!
Which files a run opens.

A pipe that is opened blocks until somebody writes to it, so nothing may be opened before it is
known to be a regular file. Main statement: each opening of a run stands behind a look that found a
regular file, so what opening anything else would do has no say in the run; as the artifact or as a
named config such a thing is refused, and where a config is looked for it is passed over
(`opens_only_regular_files`).
-/

namespace SizeGate

open CommandLine (Options)
open Session (Step Vouches)

namespace Discovery

/-- The file systems differ at most in what lies where a config is looked for and is no regular file
in either. -/
def DifferWherePassed (files other : FileSystem) : Prop :=
  ∀ path, other.status path = files.status path ∨
    (∃ directory : Path, path = directory.join Config.fileName) ∧
      FileSystem.isRegular (files.status path) = false ∧
      FileSystem.isRegular (other.status path) = false

theorem DifferWherePassed.agreeToBoundary {files other : FileSystem}
    (h : DifferWherePassed files other) (start : Path) : AgreeToBoundary files other start := by
  intro steps directory _ _
  constructor
  · rw [HoldsConfig, HoldsConfig]
    rcases h (directory.join Config.fileName) with heq | ⟨-, hfiles, hother⟩
    · rw [heq]
    · rw [hfiles, hother]
  · rw [IsBoundary, IsBoundary]
    rcases h (directory.join boundary) with heq | ⟨⟨below, hconfig⟩, -⟩
    · rw [heq]
    · exact absurd hconfig (join_boundary_ne_join_fileName directory below)

end Discovery

namespace Failure

theorem message_notRegular (path : Path) : (artifact path .notRegular).message =
    "cannot access artifact: " ++ path.display ++ ": not a regular file" := by
  have hmessage : (artifact path .notRegular).message =
      "cannot access artifact: " ++ path.display ++ ": " ++ "not a regular file" := rfl
  have hwords : ": " ++ "not a regular file" = ": not a regular file" := by decide
  rw [hmessage, String.append_assoc, hwords]

theorem message_fileMissing (path : Path) : (config path .fileMissing).message =
    "config error: " ++ path.display ++ ": config file not found" := by
  have hmessage : (config path .fileMissing).message =
      "config error: " ++ path.display ++ ": " ++ "config file not found" := rfl
  have hwords : ": " ++ "config file not found" = ": config file not found" := by decide
  rw [hmessage, String.append_assoc, hwords]

end Failure

namespace Situation

variable {s : Situation} {options : Options} {found : Option Path} {config : Config}
  {failure : Failure} {path : Path} {step : Step}

theorem opensBehindLook_steps (s : Situation) : Session.OpensBehindLook [] s.steps :=
  (guarded_run s.invocation).opensBehindLook s.files s.refusal fun _ => False.elim

theorem isRegular_of_opens (hstep : step ∈ s.steps) (hopens : step.opens? = some path) :
    s.IsRegular path := by
  obtain ⟨front, back, hsteps⟩ := List.append_of_mem hstep
  obtain ⟨size, hlooked⟩ := opensBehindLook_steps s front step back path hsteps hopens
  have hmem : Step.looked path (.ok ⟨.regular, size⟩) ∈ s.steps := by
    rw [hsteps]
    exact List.mem_append_left _ hlooked
  rw [IsRegular, ← Session.answer_of_looked_mem s.files s.refusal hmem]
  rfl

/-- A failure is the last thing said. -/
theorem Fails.exists_standardError (h : s.Fails failure) (logging : Log.Logging) (time : String) :
    ∃ before, Session.standardError logging time s.steps =
      before ++ ("otabudget: " ++ failure.message ++ "\n") := by
  obtain ⟨before, hcourse⟩ := h.exists_course
  refine ⟨Session.standardError logging time before, ?_⟩
  rw [hcourse.steps_eq, Session.standardError_append, Session.standardError_said]
  rfl

/-- A named config that is not there is all that is spoken of. -/
theorem standardError_of_noFile {named : Path} (hasks : s.Asks options)
    (hnamed : s.NamesConfig named) (h : ¬ s.IsRegular (s.invocation.cwd.join named))
    (logging : Log.Logging) (time : String) :
    Session.standardError logging time s.steps = "otabudget: " ++
      (Failure.config (s.invocation.cwd.join named) .fileMissing).message ++ "\n" := by
  rw [(Course.noFile hasks hnamed h).steps_eq, Session.standardError_append, standardError_lookups,
    Session.standardError_said, String.empty_append]
  rfl

/-- Each opening of a run stands behind a look of the same run that found a regular file there, so
nothing else is ever opened, and a file system in which opening such a thing does something else
gives the same run. As the artifact, wherever it was named, it ends the run with 1 and the words
"not a regular file"; as a named config it ends it with 3 and "config file not found", which is then
all that is said; where a config is looked for it is passed over, as if nothing were there. -/
theorem opens_only_regular_files (s : Situation) :
    (∀ before step after path, s.steps = before ++ step :: after → step.opens? = some path →
      Vouches before path) ∧
    (∀ path, ¬ s.IsRegular path → ∀ step ∈ s.steps, step.opens? ≠ some path) ∧
    (∀ other, s.files.SameUntilOpened other →
      { s with files := other }.exitCode = s.exitCode ∧
        { s with files := other }.steps = s.steps) ∧
    (∀ options found config status, s.Settles options found config →
      s.files.status (s.artifact options found config) = .ok status → status.kind ≠ .regular →
      s.exitCode.number = 1 ∧ ∀ logging time, ∃ before,
        Session.standardError logging time s.steps = before ++ ("otabudget: " ++
          ("cannot access artifact: " ++ (s.artifact options found config).display ++
            ": not a regular file") ++ "\n")) ∧
    (∀ options named, s.Asks options → s.NamesConfig named →
      ¬ s.IsRegular (s.invocation.cwd.join named) →
      s.exitCode.number = 3 ∧ ∀ logging time,
        Session.standardError logging time s.steps = "otabudget: " ++
          ("config error: " ++ (s.invocation.cwd.join named).display ++
            ": config file not found") ++ "\n") ∧
    ∀ other, Discovery.DifferWherePassed s.files other →
      ((Discovery.findConfig s.invocation.cwd).play other s.refusal).1 =
        ((Discovery.findConfig s.invocation.cwd).play s.files s.refusal).1 := by
  refine ⟨opensBehindLook_steps s, ?_, ?_, ?_, ?_, ?_⟩
  · intro path hregular step hstep hopens
    exact hregular (isRegular_of_opens hstep hopens)
  · intro other hsame
    have hplay := (guarded_run s.invocation).play_congr s.refusal hsame fun _ => False.elim
    exact ⟨congrArg Prod.fst hplay, congrArg Prod.snd hplay⟩
  · intro options found config status hsettles hstatus hkind
    have hdenies : s.files.Denies (s.artifact options found config) .notRegular :=
      .notRegular hstatus hkind
    refine ⟨number_of_lacksArtifact ⟨_, _, _, _, hsettles, hdenies⟩, fun logging time => ?_⟩
    rw [← Failure.message_notRegular]
    exact (Fails.unreadable hsettles hdenies).exists_standardError logging time
  · intro options named hasks hnamed hregular
    refine ⟨number_of_namesNoFile hasks ⟨named, hnamed, hregular⟩, fun logging time => ?_⟩
    rw [← Failure.message_fileMissing]
    exact standardError_of_noFile hasks hnamed hregular logging time
  · intro other hpassed
    exact Discovery.search_ancestors_congr s.refusal (hpassed.agreeToBoundary s.invocation.cwd)

/-- A run below a config that names a pipe as the artifact. Another pipe lies where a config is
looked for first, and an environment may name it. -/
private def besidePipes (named : Option Bytes) (opened : Except IoError Unit) : Situation where
  invocation := ⟨[], { config := named }, .ofString "/w/src", false, false, ""⟩
  files :=
    { status := fun path =>
        if path = .ofString "/w/otabudget.toml" then .ok ⟨.regular, 5⟩
        else if path = .ofString "/w/pipe" ∨ path = .ofString "/w/src/otabudget.toml" then
          .ok ⟨.special, 0⟩
        else .error (.os 2)
      opening := fun path => if path = .ofString "/w/pipe" then opened else .ok ()
      contents := fun _ => .ok (Utf8.encode "version = 1\n[artifact]\npath = \"pipe\"\n".toList) }
  refusal := none

/-- The same files without the pipe where a config is looked for first. -/
private def withoutPipe : FileSystem :=
  { (besidePipes none (.ok ())).files with
    status := fun path =>
      if path = .ofString "/w/src/otabudget.toml" then .error (.os 2)
      else (besidePipes none (.ok ())).files.status path }

private theorem settles_besidePipes :
    (besidePipes none (.ok ())).Settles {} (some (.ofString "/w/otabudget.toml"))
      ⟨some (.ofString "pipe"), none⟩ := by
  have hreads : (besidePipes none (.ok ())).files.Reads (.ofString "/w/otabudget.toml")
      ⟨some (.ofString "pipe"), none⟩ :=
    ⟨_, rfl, eq_ok_of_toOption_eq_some (by decide +kernel)⟩
  exact settles_of_reads (by rfl) (eq_ok_of_toOption_eq_some (by decide +kernel)) hreads

theorem pipes_never_opened :
    (besidePipes none (.ok ())).exitCode.number = 1 ∧
    (∀ step ∈ (besidePipes none (.ok ())).steps, step.opens? ≠ some (.ofString "/w/pipe")) ∧
    (besidePipes none (.error (.os 6))).steps = (besidePipes none (.ok ())).steps ∧
    (besidePipes (some (Utf8.encode "otabudget.toml".toList)) (.ok ())).exitCode.number = 3 ∧
    ((Discovery.findConfig (.ofString "/w/src")).play withoutPipe none).1 =
      some (.ofString "/w/otabudget.toml") := by
  obtain ⟨-, hnever, hsame, hartifact, -, hpassed⟩ :=
    opens_only_regular_files (besidePipes none (.ok ()))
  obtain ⟨-, -, -, -, hnamed, -⟩ := opens_only_regular_files
    (besidePipes (some (Utf8.encode "otabudget.toml".toList)) (.ok ()))
  have hpath : (besidePipes none (.ok ())).artifact {} (some (.ofString "/w/otabudget.toml"))
      ⟨some (.ofString "pipe"), none⟩ = .ofString "/w/pipe" := by decide +kernel
  refine ⟨?_, hnever _ (by decide), ?_, ?_, ?_⟩
  · have hstatus : (besidePipes none (.ok ())).files.status (.ofString "/w/pipe") =
        .ok ⟨.special, 0⟩ := by decide
    rw [← hpath] at hstatus
    exact (hartifact _ _ _ _ settles_besidePipes hstatus (by decide)).1
  · have hother : (besidePipes none (.ok ())).files.SameUntilOpened
        (besidePipes none (.error (.os 6))).files := by
      refine ⟨fun _ => rfl, fun path hregular => ?_, fun _ _ => rfl⟩
      have hpipe : path ≠ .ofString "/w/pipe" := by
        rintro rfl
        exact absurd hregular (by decide)
      simp [besidePipes, hpipe]
    exact (hsame _ hother).2
  · have hasks : (besidePipes (some (Utf8.encode "otabudget.toml".toList)) (.ok ())).Asks
        { config := some (.ofString "otabudget.toml") } := by
      unfold Asks
      decide +kernel
    have hnames : (besidePipes (some (Utf8.encode "otabudget.toml".toList)) (.ok ())).NamesConfig
        (.ofString "otabudget.toml") := (namesConfig_iff hasks _).mpr rfl
    exact (hnamed _ _ hasks hnames (by decide)).1
  · have hdiffer : Discovery.DifferWherePassed (besidePipes none (.ok ())).files withoutPipe := by
      intro path
      by_cases hpath : path = .ofString "/w/src/otabudget.toml"
      · subst hpath
        exact .inr ⟨⟨.ofString "/w/src", by decide⟩, by decide, by decide⟩
      · exact .inl (if_neg hpath)
    exact (hpassed _ hdiffer).trans (by decide +kernel)

end Situation

end SizeGate
