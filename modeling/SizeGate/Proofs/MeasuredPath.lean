import SizeGate.Proofs.Course

/-!
Which file a check measures.

`Measures` is read off the steps of a run alone: the file that it says it checks, looks at next, and
may open. Main statement: that file is the one the command line names, or else the one the config
names, seen from the directory of the config, or else the default (`measures_iff_selects`). A config
always has a directory here, since neither the empty path nor the root is a regular file.
-/

namespace SizeGate.Situation

open CommandLine (Options)
open Session (Step)

variable (s : Situation)

/-- The run says that it checks `path`, looks there and nowhere else from then on, and opens and
measures no other file at any time. -/
def Measures (path : Path) : Prop :=
  (∃ before after, s.steps = before ++
      .said (.event (.checkingArtifact path)) :: .looked path (s.files.status path) :: after ∧
    ∀ other answer, Step.looked other answer ∉ after) ∧
  (∀ other, Step.opened other ∈ s.steps → other = path) ∧
  ∀ other size, Step.said (.event (.measured other size)) ∈ s.steps → other = path

/-- The file that a check with these options and settings is to measure. -/
inductive Selects (options : Options) (found : Option Path) (config : Config) : Path → Prop where
  | argument {named : Path} : options.artifact = some named →
      Selects options found config (s.invocation.cwd.join named)
  | configured {path directory named : Path} : options.artifact = none →
      found = some path → path.parent? = some directory → config.artifact = some named →
      Selects options found config (directory.join named)
  | default : options.artifact = none → config.artifact = none →
      Selects options found config (s.invocation.cwd.join (.ofString "build/main_app.bin"))

/-- What a check of `artifact` may do once it has looked there. -/
inductive IsClosing (artifact : Path) : Step → Prop where
  | measuring {step : Step} : IsMeasuring s.files artifact step → IsClosing artifact step
  | judged (verdict : Verdict) : IsClosing artifact (.said (.event (.judged verdict)))
  | failure (message : String) : IsClosing artifact (.said (.failure message))
  | wrote (text : String) : IsClosing artifact (.wrote text)
  | refused (text : String) : IsClosing artifact (.refused text)

variable {s} {options : Options} {found : Option Path} {config : Config}

/-- An ending starts with the look at the artifact, and looks nowhere else. -/
theorem Ending.exists_closing {code : ExitCode} {ending : List Step}
    (h : s.Ending options found config code ending) :
    let artifact := s.artifact options found config
    ∃ after, ending = .looked artifact (s.files.status artifact) :: after ∧
      ∀ step ∈ after, s.IsClosing artifact step := by
  intro artifact
  obtain ⟨steps, hsteps, hmeasuring⟩ := exists_measuring s artifact
  have hend : ∀ last : List Step, (∀ step ∈ last, s.IsClosing artifact step) →
      ∃ after, s.measuring artifact ++ last =
          .looked artifact (s.files.status artifact) :: after ∧
        ∀ step ∈ after, s.IsClosing artifact step := by
    intro last hlast
    refine ⟨steps ++ last, by rw [hsteps, List.cons_append], ?_⟩
    intro step member
    rcases List.mem_append.mp member with hstep | hstep
    · exact .measuring (hmeasuring step hstep)
    · exact hlast step hstep
  cases h with
  | unreadable _ =>
    apply hend
    intro step member
    rw [List.mem_singleton.mp member]
    exact .failure _
  | unreported _ _ =>
    apply hend
    intro step member
    simp only [List.mem_cons, List.not_mem_nil, or_false] at member
    rcases member with rfl | rfl | rfl
    · exact .judged _
    · exact .refused _
    · exact .failure _
  | reported _ _ =>
    apply hend
    intro step member
    simp only [List.mem_cons, List.not_mem_nil, or_false] at member
    rcases member with rfl | rfl
    · exact .judged _
    · exact .wrote _

/-- The steps of a check that got past its config: those that prepare it, and then those that
measure its artifact and close. -/
theorem Settles.exists_steps (h : s.Settles options found config) :
    let artifact := s.artifact options found config
    ∃ before after, s.steps = before ++ .said (.event (.checkingArtifact artifact)) ::
        .looked artifact (s.files.status artifact) :: after ∧
      (∀ step ∈ before, IsPreparing s.files found step) ∧
      ∀ step ∈ after, s.IsClosing artifact step := by
  intro artifact
  obtain ⟨code, ending, hending⟩ := exists_ending s options found config
  obtain ⟨after, rfl, hclosing⟩ := hending.exists_closing
  refine ⟨s.lookups options ++ s.readings found, after, ?_, ?_, hclosing⟩
  · rw [(Course.checked h hending).steps_eq, List.append_assoc]
  · intro step member
    rcases List.mem_append.mp member with hlookups | hreadings
    · exact isPreparing_of_mem_lookups found hlookups
    · exact isPreparing_of_mem_readings hreadings

/-- The file that is measured is the one that the run resolves. -/
theorem measures_iff_eq_artifact (h : s.Settles options found config) (path : Path) :
    s.Measures path ↔ path = s.artifact options found config := by
  obtain ⟨before, after, hsteps, hpreparing, hclosing⟩ := h.exists_steps
  constructor
  · rintro ⟨⟨_, _, hother, -⟩, -, -⟩
    have hchecking : Step.said (.event (.checkingArtifact path)) ∈ s.steps := by
      rw [hother]
      simp
    rw [hsteps] at hchecking
    simp only [List.mem_append, List.mem_cons] at hchecking
    rcases hchecking with hbefore | heq | hlooked | hafter
    · cases hpreparing _ hbefore
    · cases heq
      rfl
    · cases hlooked
    · cases hclosing _ hafter with
      | measuring hmeasuring => cases hmeasuring
  · rintro rfl
    refine ⟨⟨before, after, hsteps, ?_⟩, ?_, ?_⟩
    · intro other answer member
      cases hclosing _ member with
      | measuring hmeasuring => cases hmeasuring
    · intro other hopened
      rw [hsteps] at hopened
      simp only [List.mem_append, List.mem_cons, reduceCtorEq, false_or] at hopened
      rcases hopened with hbefore | hafter
      · cases hpreparing _ hbefore
      · cases hclosing _ hafter with
        | measuring hmeasuring =>
          cases hmeasuring
          rfl
    · intro other size hmeasured
      rw [hsteps] at hmeasured
      simp only [List.mem_append, List.mem_cons, Step.said.injEq, Notice.event.injEq, reduceCtorEq,
        false_or] at hmeasured
      rcases hmeasured with hbefore | hafter
      · cases hpreparing _ hbefore
      · cases hclosing _ hafter with
        | measuring hmeasuring =>
          cases hmeasuring
          rfl

theorem configured_eq_some {path directory named : Path} (hparent : path.parent? = some directory)
    (hartifact : config.artifact = some named) :
    Run.configured (some path) config = some (named, directory) := by
  simp [Run.configured, hparent, hartifact]

theorem configured_eq_none (found : Option Path) (hartifact : config.artifact = none) :
    Run.configured found config = none := by
  simp [Run.configured, hartifact]

theorem Selects.eq_artifact {path : Path} (h : s.Selects options found config path) :
    path = s.artifact options found config := by
  cases h with
  | argument hargument =>
    rw [artifact, hargument]
    rfl
  | configured hargument hfound hparent hartifact =>
    rw [artifact, hargument, hfound, configured_eq_some hparent hartifact]
    rfl
  | default hargument hartifact =>
    rw [artifact, hargument, configured_eq_none found hartifact]
    rfl

/-- The config that a check goes by is a regular file, so it cannot be the empty path or the root,
and every other path has a parent. -/
theorem Settles.exists_parent (h : s.Settles options found config) (hempty : ¬ s.IsRegular ⟨[]⟩)
    (hroot : ∀ path : Path, path.components = [.root] → ¬ s.IsRegular path) {path : Path}
    (hfound : found = some path) : ∃ directory, path.parent? = some directory := by
  cases h with
  | byDefault _ _ => cases hfound
  | byFile _ _ hregular _ =>
    cases hfound
    cases hparent : path.parent? with
    | some directory => exact ⟨directory, rfl⟩
    | none =>
      rcases Path.eq_nil_or_components_of_parent?_eq_none hparent with rfl | hcomponents
      · exact absurd hregular hempty
      · exact absurd hregular (hroot path hcomponents)

theorem Settles.exists_selects (h : s.Settles options found config) (hempty : ¬ s.IsRegular ⟨[]⟩)
    (hroot : ∀ path : Path, path.components = [.root] → ¬ s.IsRegular path) :
    ∃ path, s.Selects options found config path := by
  cases hargument : options.artifact with
  | some named => exact ⟨_, .argument hargument⟩
  | none =>
    cases hartifact : config.artifact with
    | none => exact ⟨_, .default hargument hartifact⟩
    | some named =>
      cases hfound : found with
      | none =>
        rw [hfound] at h
        cases h
        cases hartifact
      | some path =>
        obtain ⟨directory, hparent⟩ := h.exists_parent hempty hroot hfound
        exact ⟨_, .configured hargument rfl hparent hartifact⟩

/-- Where neither the empty path nor the root is a regular file, a check that gets past its config
measures exactly one file. It is the one that the command line names, seen from the working
directory; or else the one that the config names, seen from the directory of the config, which
always has one; or else the default, seen from the working directory. A name that is an absolute
path is taken as it stands. -/
theorem measures_iff_selects (s : Situation) {options : Options} {found : Option Path}
    {config : Config} (hempty : ¬ s.IsRegular ⟨[]⟩)
    (hroot : ∀ path : Path, path.components = [.root] → ¬ s.IsRegular path)
    (hsettles : s.Settles options found config) :
    (∃ path, s.Measures path) ∧
    (∀ path, s.Measures path ↔ s.Selects options found config path) ∧
    (∀ path, found = some path → ∃ directory, path.parent? = some directory) ∧
    (∀ named, options.artifact = some named → named.isAbsolute = true → s.Measures named) ∧
    (∀ named, options.artifact = none → config.artifact = some named → named.isAbsolute = true →
      s.Measures named) := by
  obtain ⟨selected, hselected⟩ := hsettles.exists_selects hempty hroot
  have hmeasures : ∀ path, s.Measures path ↔ s.Selects options found config path := by
    intro path
    rw [measures_iff_eq_artifact hsettles]
    constructor
    · rintro rfl
      exact hselected.eq_artifact ▸ hselected
    · exact Selects.eq_artifact
  refine ⟨⟨selected, (hmeasures selected).mpr hselected⟩, hmeasures, ?_, ?_, ?_⟩
  · intro path hfound
    exact hsettles.exists_parent hempty hroot hfound
  · intro named hargument habsolute
    rw [hmeasures, ← Path.join_of_isAbsolute s.invocation.cwd habsolute]
    exact .argument hargument
  · intro named hargument hartifact habsolute
    rw [hmeasures]
    cases hselected with
    | argument hother => cases hargument.symm.trans hother
    | default _ hother => cases hartifact.symm.trans hother
    | @configured path directory other _ hfound hparent _ =>
      rw [← Path.join_of_isAbsolute directory habsolute]
      exact .configured hargument hfound hparent hartifact

/-- A run below the directory of its config, which names the artifact beside it. -/
private def checkout : Situation where
  invocation := ⟨[], {}, .ofString "/w/src", false, false, ""⟩
  files :=
    { status := fun path =>
        if path = .ofString "/w/otabudget.toml" ∨ path = .ofString "/w/app.bin" then
          .ok ⟨.regular, 5⟩
        else .error (.os 2)
      opening := fun _ => .ok ()
      contents := fun _ =>
        .ok (Utf8.encode "version = 1\n[artifact]\npath = \"app.bin\"\n".toList) }
  refusal := none

private theorem parse_checkout :
    (Config.parse "version = 1\n[artifact]\npath = \"app.bin\"\n").result =
      .ok ⟨some (.ofString "app.bin"), none⟩ := by
  have hparsed : (Config.parse "version = 1\n[artifact]\npath = \"app.bin\"\n").result.toOption =
      some ⟨some (.ofString "app.bin"), none⟩ := by decide +kernel
  cases hresult : (Config.parse "version = 1\n[artifact]\npath = \"app.bin\"\n").result with
  | error problem =>
    rw [hresult] at hparsed
    cases hparsed
  | ok config =>
    rw [hresult] at hparsed
    exact congrArg Except.ok (Option.some.inj hparsed)

private theorem not_isRegular_checkout {path : Path}
    (hconfig : path ≠ .ofString "/w/otabudget.toml") (hartifact : path ≠ .ofString "/w/app.bin") :
    ¬ checkout.IsRegular path := by
  simp [IsRegular, checkout, hconfig, hartifact, FileSystem.isRegular]

private theorem settles_checkout :
    checkout.Settles {} (some (.ofString "/w/otabudget.toml"))
      ⟨some (.ofString "app.bin"), none⟩ := by
  have hparse : CommandLine.parse {} [] = .ok {} := by rfl
  refine .byFile hparse (.found ?_ ?_) (by decide) ⟨_, rfl, parse_checkout⟩
  · rintro named ⟨flags, hflags, hnamed⟩
    cases Except.ok.inj (hparse.symm.trans hflags)
    rcases hnamed with hflag | ⟨-, henv⟩
    · cases hflag
    · cases henv
  · refine ⟨1, .ofString "/w", by decide, by decide, by decide, ?_⟩
    intro earlier hlt directory hdirectory
    cases Nat.lt_one_iff.mp hlt
    cases hdirectory
    decide

theorem measures_artifact_beside_config :
    ¬ checkout.IsRegular ⟨[]⟩ ∧
      (∀ path : Path, path.components = [.root] → ¬ checkout.IsRegular path) ∧
      checkout.Settles {} (some (.ofString "/w/otabudget.toml"))
        ⟨some (.ofString "app.bin"), none⟩ ∧
      checkout.Measures (.ofString "/w/app.bin") := by
  have hempty : ¬ checkout.IsRegular ⟨[]⟩ := not_isRegular_checkout (by decide) (by decide)
  have hroot : ∀ path : Path, path.components = [.root] → ¬ checkout.IsRegular path := by
    intro path hcomponents
    apply not_isRegular_checkout
    · rintro rfl
      cases hcomponents
    · rintro rfl
      cases hcomponents
  obtain ⟨-, hmeasures, -⟩ := measures_iff_selects checkout hempty hroot settles_checkout
  have hparent : (Path.ofString "/w/otabudget.toml").parent? = some (.ofString "/w") := by decide
  have hjoin : Path.ofString "/w/app.bin" = (Path.ofString "/w").join (.ofString "app.bin") := by
    decide
  refine ⟨hempty, hroot, settles_checkout, ?_⟩
  rw [hmeasures, hjoin]
  exact .configured rfl rfl hparent rfl

end SizeGate.Situation
