import SizeGate.Proofs.CommandLine.Replacement
import SizeGate.Proofs.ConfigNaming
import SizeGate.Proofs.WorkingDirectory

/-!
Checks repeated with the path that they measured.

The path that a check comes to is absolute, so it stands for the same file wherever it is given
again. Main statement: given as the artifact of the command line, it is what the check comes to
again, and the two runs cannot be told apart (`repeated_alike`), also from another directory as long
as the config stays the same.
-/

namespace SizeGate

open CommandLine (Options Replaces spelled)
open Session (Step)

namespace Artifact

/-- Seen from absolute directories, every path that is resolved is absolute. -/
theorem isAbsolute_resolve (explicit : Option Path) {configured : Option (Path × Path)} {cwd : Path}
    (hcwd : cwd.isAbsolute)
    (hconfigured : ∀ named directory, configured = some (named, directory) →
      directory.isAbsolute) : (resolve explicit configured cwd).isAbsolute := by
  cases explicit with
  | some path => exact Path.isAbsolute_join path hcwd
  | none =>
    cases configured with
    | none => exact Path.isAbsolute_join defaultPath hcwd
    | some pair =>
      obtain ⟨named, directory⟩ := pair
      exact Path.isAbsolute_join named (hconfigured named directory rfl)

theorem resolve_of_isAbsolute {path : Path} (h : path.isAbsolute)
    (configured : Option (Path × Path)) (cwd : Path) : resolve (some path) configured cwd = path :=
  Path.join_of_isAbsolute cwd h

end Artifact

namespace Situation

/-- The run with other arguments, in a directory and at a time of its own. -/
def repeatedWith (s : Situation) (args : List Bytes) (cwd : Path) (time : String) : Situation :=
  { s with invocation := { s.invocation with args, cwd, time } }

variable {s : Situation} {options others : Options} {found : Option Path} {config : Config}
  {path : Path} {args : List Bytes} {cwd : Path} {time : String}

/-- Only a check that got past its config says what it checks. -/
theorem exists_settles_of_measures (h : s.Measures path) : ∃ options found config,
    s.Settles options found config ∧ path = s.artifact options found config := by
  have hchecking : Step.said (.event (.checkingArtifact path)) ∈ s.steps := by
    obtain ⟨⟨before, after, hsteps, -⟩, -, -⟩ := h
    rw [hsteps]
    simp
  have hlookups : ∀ options, Step.said (.event (.checkingArtifact path)) ∉ s.lookups options := by
    intro options member
    obtain ⟨other, hother⟩ := looked_of_mem_lookups member
    cases hother
  have hreadings : ∀ found, Step.said (.event (.checkingArtifact path)) ∉ s.readings found := by
    intro found member
    cases isPreparing_of_mem_readings member
  have hcourse := s.course
  generalize s.exitCode = code at hcourse
  generalize s.steps = steps at hcourse hchecking
  cases hcourse with
  | misused _ | answered _ _ | unanswered _ _ => simp at hchecking
  | noFile _ _ _ => simp [hlookups] at hchecking
  | rejected _ _ _ _ => simp [hlookups, hreadings] at hchecking
  | checked hsettles _ => exact ⟨_, _, _, hsettles, (measures_iff_eq_artifact hsettles path).mp h⟩

theorem GoesBy.isAbsolute (h : s.GoesBy path) (habsolute : s.invocation.cwd.isAbsolute) :
    path.isAbsolute := by
  cases h with
  | named _ => exact Path.isAbsolute_join _ habsolute
  | found _ hfinds => exact hfinds.isAbsolute habsolute

theorem Settles.isAbsolute_artifact (h : s.Settles options found config)
    (habsolute : s.invocation.cwd.isAbsolute) : (s.artifact options found config).isAbsolute := by
  refine Artifact.isAbsolute_resolve _ habsolute fun named directory hconfigured => ?_
  simp only [Run.configured, Option.bind_eq_bind, Option.bind_eq_some_iff] at hconfigured
  obtain ⟨_, -, path, rfl, parent, hparent, hpair⟩ := hconfigured
  cases hpair
  cases h with
  | byFile _ hgoes _ _ => exact Path.isAbsolute_of_parent? hparent (hgoes.isAbsolute habsolute)

/-- Without a config, nothing is read. -/
theorem Settles.read_notMem (h : s.Settles options none config) (path : Path) :
    Step.read path ∉ s.steps := by
  intro member
  obtain ⟨other, hother, hresolve⟩ := (read_mem_steps_iff s path).mp member
  cases Except.ok.inj (hother.symm.trans h.asks)
  cases hresolve.symm.trans h.resolveConfig

/-- The same config is come to again, or none again. -/
theorem Settles.repeatedWith (h : s.Settles options found config)
    (hasks : (s.repeatedWith args cwd time).Asks others) (hconfig : others.config = options.config)
    (hcwd : cwd = s.invocation.cwd ∨ ∀ path,
      Step.read path ∈ (s.repeatedWith args cwd time).steps ↔ Step.read path ∈ s.steps) :
    (s.repeatedWith args cwd time).Settles others found config := by
  have hresolve := h.resolveConfig
  refine settles_iff.mpr ⟨hasks, ?_, h.settings⟩
  rw [hconfig]
  rcases hcwd with rfl | hreads
  · exact hresolve
  cases found with
  | some path =>
    have hread : Step.read path ∈ s.steps :=
      (read_mem_steps_iff s path).mpr ⟨options, h.asks, hresolve⟩
    obtain ⟨again, hagain, hsame⟩ := (read_mem_steps_iff _ path).mp ((hreads path).mpr hread)
    cases Except.ok.inj (hagain.symm.trans hasks)
    rwa [hconfig] at hsame
  | none =>
    have hnone : options.config = none := by
      cases h with
      | byDefault hasked hgoes =>
        exact config_eq_none hasked fun _ hnamed => hgoes _ (.named hnamed)
    rw [hnone, Discovery.play_resolveConfig_none]
    refine congrArg Except.ok (Option.eq_none_iff_forall_ne_some.mpr fun path hpath => ?_)
    refine h.read_notMem path ((hreads path).mp ?_)
    refine (read_mem_steps_iff _ path).mpr ⟨others, hasks, ?_⟩
    rw [hconfig, hnone, Discovery.play_resolveConfig_none]
    exact congrArg Except.ok hpath

/-- A path that is resolved from absolute directories is absolute, and given as the artifact of the
command line it is resolved to itself from everywhere. So a run that measures it can be repeated
with it behind two dashes, in place of the artifact of the command line if there was one, and cannot
be told apart from that. Where the repetition comes to the same config, or to none again, it may
start in any directory. -/
theorem repeated_alike :
    (∀ explicit configured cwd, cwd.isAbsolute →
      (∀ named directory, configured = some (named, directory) → directory.isAbsolute) →
      let path := Artifact.resolve explicit configured cwd
      path.isAbsolute ∧ ∀ configured cwd, Artifact.resolve (some path) configured cwd = path) ∧
    ∀ (s : Situation) path, s.invocation.cwd.isAbsolute → s.Measures path →
      (∃ args, Replaces path.bytes s.invocation.args args) ∧
      ∀ args, Replaces path.bytes s.invocation.args args → ∀ cwd time,
        let again := s.repeatedWith args cwd time
        (cwd = s.invocation.cwd ∨
          ∀ config, Step.read config ∈ again.steps ↔ Step.read config ∈ s.steps) →
        s.LooksLike again := by
  refine ⟨fun explicit configured cwd hcwd hconfigured => ?_, fun s path habsolute hmeasures => ?_⟩
  · have hpath := Artifact.isAbsolute_resolve explicit hcwd hconfigured
    exact ⟨hpath, Artifact.resolve_of_isAbsolute hpath⟩
  obtain ⟨options, found, config, hsettles, rfl⟩ := exists_settles_of_measures hmeasures
  have hpath := hsettles.isAbsolute_artifact habsolute
  constructor
  · obtain ⟨items, hline⟩ := CommandLine.exists_line_of_parse hsettles.asks
    exact CommandLine.exists_replaces hline _
  · intro args hreplaces cwd time again hcwd
    let others : Options := { options with artifact := some (s.artifact options found config) }
    have hasks : again.Asks others :=
      CommandLine.parse_of_replaces (Path.bytes_ne_nil_of_isAbsolute hpath) hreplaces hsettles.asks
    have hartifact : again.artifact others found config = s.artifact options found config :=
      Artifact.resolve_of_isAbsolute hpath _ _
    have hagain : again.Settles others found config := hsettles.repeatedWith hasks rfl hcwd
    obtain ⟨code, ending, hending⟩ := exists_ending s options found config
    have houtput : others.output = options.output := rfl
    have hcolored : again.isColored others = s.isColored options := rfl
    obtain ⟨steps, hcourse, hlike⟩ :=
      hending.exists_course houtput hcolored hartifact rfl rfl hagain
    exact looksLike_of_course (.checked hsettles hending) hcourse hlike rfl

/-- A check of an artifact that is named in a roundabout way. -/
private def roundabout : Situation where
  invocation := ⟨[spelled "x/../app.bin", spelled "-o", spelled "json"], {}, .ofString "/w", false,
    false, ""⟩
  files :=
    { status := fun path =>
        if path = .ofString "/w/x/../app.bin" then .ok ⟨.regular, 5⟩ else .error (.os 2)
      opening := fun _ => .ok ()
      contents := fun _ => .error (.os 2) }
  refusal := none

theorem roundabout_alike :
    roundabout.LooksLike (roundabout.repeatedWith
      [spelled "-o", spelled "json", spelled "--", spelled "/w/x/../app.bin"] (.ofString "/")
      "later") := by
  have hsettles : roundabout.Settles
      { artifact := some (.ofString "x/../app.bin"), output := some .json } none {} :=
    settles_iff.mpr ⟨eq_ok_of_toOption_eq_some (by decide +kernel),
      eq_ok_of_toOption_eq_some (by decide +kernel), rfl⟩
  have hagain : (roundabout.repeatedWith
      [spelled "-o", spelled "json", spelled "--", spelled "/w/x/../app.bin"] (.ofString "/")
      "later").Settles
      { artifact := some (.ofString "/w/x/../app.bin"), output := some .json } none {} :=
    settles_iff.mpr ⟨eq_ok_of_toOption_eq_some (by decide +kernel),
      eq_ok_of_toOption_eq_some (by decide +kernel), rfl⟩
  have hmeasures : roundabout.Measures (.ofString "/w/x/../app.bin") :=
    (measures_iff_eq_artifact hsettles _).mpr (by decide)
  have hformat : CommandLine.Group (.output .json) [spelled "-o", spelled "json"] :=
    .output (.shortApart (.inr (by decide)))
  have hreplaces : Replaces (spelled "/w/x/../app.bin") roundabout.invocation.args
      [spelled "-o", spelled "json", spelled "--", spelled "/w/x/../app.bin"] :=
    .dropped (.artifact (by decide) (.inr (by decide))) (.kept (by decide) hformat .nil)
  obtain ⟨-, hruns⟩ := repeated_alike.2 roundabout _ (by decide) hmeasures
  exact hruns _ hreplaces _ _
    (.inr fun config => iff_of_false (hagain.read_notMem config) (hsettles.read_notMem config))

end Situation

end SizeGate
