import SizeGate.Proofs.CommandLine.Grammar
import SizeGate.Proofs.SameRun

/-!
The ways to name a config.

A config may be found, named by an argument in front of the others, or named by the environment, and
a name may be seen from the working directory or from the root. Main statement: runs that come to
the same config in any of these ways cannot be told apart (`config_named_alike`).
-/

namespace SizeGate

open CommandLine (Options Item)

namespace CommandLine

/-- The argument that names a config. -/
def configArgument (value : Bytes) : Bytes :=
  spelled "--config" ++ Progress.equals :: value

theorem has_put_config_iff {flags : Options} (hnone : flags.config = none) (value : Bytes)
    (item : Item) : ((Item.config value).put flags).Has item ↔
      item = .config value ∨ flags.Has item := by
  rw [has_put_iff]
  cases item with
  | config named => simp [Item.argument, Options.Has, hnone, eq_comm]
  | artifact | output | color | noColor => simp [Item.argument]

section Naming

variable {env : Environment} {args : List Bytes} {flags : Options} {value : Bytes}
  (hparse : parse { env with config := none } args = .ok flags) (hnone : flags.config = none)
  (hvalue : value ≠ [])
include hparse hnone

/-- Arguments that name no config keep to the grammar without one. -/
theorem exists_line_without_config : ∃ items, Line items args ∧ GoTogether {} items ∧
    (∀ item, flags.Has item ↔ item ∈ items) ∧ ∀ named, .config named ∉ items := by
  obtain ⟨items, hline⟩ := exists_line_of_parse hparse
  obtain ⟨htogether, hhas⟩ := (parse_eq_ok_iff_of_line hline).mp hparse
  have hitems : ∀ item, flags.Has item ↔ item ∈ items := by
    intro item
    rw [hhas, supplied_iff_mem (by simp)]
  refine ⟨items, hline, ⟨htogether.once, htogether.flags, by simp⟩, hitems, ?_⟩
  intro named member
  cases hnone.symm.trans ((hitems _).mpr member)

include hvalue

/-- With a config named in front, the environment has no say. -/
theorem parse_configArgument (setting : Option Bytes) :
    parse { env with config := setting } (configArgument value :: args) =
      .ok ((Item.config value).put flags) := by
  obtain ⟨items, hline, htogether, hitems, hnames⟩ := exists_line_without_config hparse hnone
  have hgroup : Group (.config value) [configArgument value] := .config hvalue .longEquals
  have hfront : Line (.config value :: items) (configArgument value :: args) :=
    .group hgroup hline
  rw [parse_eq_ok_iff_of_line hfront]
  refine ⟨⟨?_, ?_, ?_⟩, fun item => ?_⟩
  · rw [List.map_cons, List.nodup_cons]
    refine ⟨fun member => ?_, htogether.once⟩
    obtain ⟨named, hnamed⟩ := mem_map_argument_config_iff.mp member
    exact hnames named hnamed
  · simpa using htogether.flags
  · exact fun hsilent => absurd List.mem_cons_self (hsilent value)
  · rw [has_put_config_iff hnone, hitems, supplied_iff_mem, List.mem_cons]
    exact fun _ hsilent => absurd List.mem_cons_self (hsilent value)

theorem parse_config_variable :
    parse { env with config := some value } args = .ok ((Item.config value).put flags) := by
  obtain ⟨items, hline, htogether, hitems, hnames⟩ := exists_line_without_config hparse hnone
  rw [parse_eq_ok_iff_of_line hline]
  refine ⟨⟨htogether.once, htogether.flags, fun _ => by simpa using hvalue⟩, fun item => ?_⟩
  rw [has_put_config_iff hnone, hitems, supplied_iff_mem_or_eq hnames rfl, or_comm]

end Naming

end CommandLine

theorem Discovery.Finds.isAbsolute {files : FileSystem} {start path : Path}
    (h : Finds files start path) (habsolute : start.isAbsolute) : path.isAbsolute := by
  obtain ⟨steps, directory, hdirectory, rfl, -, -⟩ := h
  exact Path.isAbsolute_join _ (Path.isAbsolute_of_ancestor? hdirectory habsolute)

namespace Situation

open CommandLine (configArgument)

/-- The run with other arguments, another value of the variable that names a config, or none, and a
report of another time. -/
def calledWith (s : Situation) (args : List Bytes) (setting : Option Bytes) (time : String) :
    Situation :=
  { s with invocation :=
      { s.invocation with args, env := { s.invocation.env with config := setting }, time } }

/-- The run whose config is looked for. -/
def discovering (s : Situation) (time : String) : Situation :=
  s.calledWith s.invocation.args none time

/-- The run with a config named in front of its arguments. -/
def byArgument (s : Situation) (value : Bytes) (setting : Option Bytes) (time : String) :
    Situation :=
  s.calledWith (configArgument value :: s.invocation.args) setting time

/-- The run with a config named by the environment. -/
def byVariable (s : Situation) (value : Bytes) (time : String) : Situation :=
  s.calledWith s.invocation.args (some value) time

section Calls

variable {s : Situation} {options others flags : Options} {args reordered : List Bytes}
  {setting other : Option Bytes} {time later : String} {value : Bytes}

/-- Calls with the same options but for the config, which come to the same one, look alike. -/
theorem looksLike_of_calledWith (hasks : (s.calledWith args setting time).Asks options)
    (hothers : (s.calledWith reordered other later).Asks others)
    (hoptions : others = { options with config := others.config })
    (hresolved :
      ((Discovery.resolveConfig others.config s.invocation.cwd).play s.files s.refusal).1 =
        ((Discovery.resolveConfig options.config s.invocation.cwd).play s.files s.refusal).1) :
    (s.calledWith args setting time).LooksLike (s.calledWith reordered other later) := by
  have htwin :
      (s.calledWith args setting time).IsTwin (s.calledWith reordered other later)
        options others := by
    refine ⟨hasks, hothers, hoptions, rfl, rfl, rfl, rfl, hresolved, fun found config _ => ?_⟩
    rw [artifact, artifact, hoptions]
    rfl
  exact htwin.looksLike

/-- Seen from an absolute directory, a name and the path that it stands for name the same. -/
theorem play_resolveConfig_join (s : Situation) (habsolute : s.invocation.cwd.isAbsolute)
    (named : Path) :
    ((Discovery.resolveConfig (some (s.invocation.cwd.join named)) s.invocation.cwd).play
        s.files s.refusal).1 =
      ((Discovery.resolveConfig (some named) s.invocation.cwd).play s.files s.refusal).1 := by
  have hjoin := Path.join_of_isAbsolute s.invocation.cwd
    (Path.isAbsolute_join named habsolute)
  rw [Discovery.play_resolveConfig_some, Discovery.play_resolveConfig_some, hjoin]

/-- A config that was found can be named by its path. -/
theorem play_resolveConfig_of_finds (s : Situation) (habsolute : s.invocation.cwd.isAbsolute)
    {path : Path} (hfinds : Discovery.Finds s.files s.invocation.cwd path) :
    ((Discovery.resolveConfig (some path) s.invocation.cwd).play s.files s.refusal).1 =
      ((Discovery.resolveConfig none s.invocation.cwd).play s.files s.refusal).1 := by
  have hsearch := (Discovery.search_ancestors_eq_some_iff s.files s.refusal _ _).mpr hfinds
  rw [Discovery.play_resolveConfig_some, Discovery.play_resolveConfig_none, hsearch,
    Path.join_of_isAbsolute _ (hfinds.isAbsolute habsolute)]
  exact if_pos hfinds.isRegular

end Calls

/-- Arguments that name no config may be called in several ways from an absolute directory. The
config that is found can as well be named by its path, in front of the arguments or by the
environment. A name in front of them does what the same name does in the environment, whatever the
environment holds then. A name does what the path that it stands for does. Runs called in these ways
cannot be told apart. -/
theorem config_named_alike (s : Situation) (flags : Options)
    (habsolute : s.invocation.cwd.isAbsolute)
    (hparse : CommandLine.parse { s.invocation.env with config := none } s.invocation.args =
      .ok flags)
    (hnone : flags.config = none) :
    (∀ path, ((Discovery.findConfig s.invocation.cwd).play s.files s.refusal).1 = some path →
      ∀ setting time later,
        (s.discovering time).LooksLike (s.byArgument path.bytes setting later) ∧
        (s.discovering time).LooksLike (s.byVariable path.bytes later)) ∧
    (∀ value, value ≠ [] → ∀ setting time later,
      (s.byVariable value time).LooksLike (s.byArgument value setting later)) ∧
    ∀ value, value ≠ [] → ∀ setting other time later,
      let path := s.invocation.cwd.join ⟨value⟩
      (s.byArgument value setting time).LooksLike (s.byArgument path.bytes other later) ∧
      (s.byVariable value time).LooksLike (s.byVariable path.bytes later) := by
  have hargument : ∀ {value}, value ≠ [] → ∀ setting time,
      (s.byArgument value setting time).Asks ((Item.config value).put flags) :=
    fun hvalue setting _ => CommandLine.parse_configArgument hparse hnone hvalue setting
  have hvariable : ∀ {value}, value ≠ [] → ∀ time,
      (s.byVariable value time).Asks ((Item.config value).put flags) :=
    fun hvalue _ => CommandLine.parse_config_variable hparse hnone hvalue
  refine ⟨?_, ?_, ?_⟩
  · intro path hfound setting time later
    have hfinds := (Discovery.search_ancestors_eq_some_iff s.files s.refusal _ path).mp hfound
    have hresolved := s.play_resolveConfig_of_finds habsolute hfinds
    have hpath := Path.bytes_ne_nil_of_isAbsolute (hfinds.isAbsolute habsolute)
    rw [← hnone] at hresolved
    exact ⟨looksLike_of_calledWith hparse (hargument hpath setting later) rfl hresolved,
      looksLike_of_calledWith hparse (hvariable hpath later) rfl hresolved⟩
  · intro value hvalue setting time later
    exact looksLike_of_calledWith (hvariable hvalue time) (hargument hvalue setting later) rfl rfl
  · intro value hvalue setting other time later path
    have hresolved := s.play_resolveConfig_join habsolute ⟨value⟩
    have hpath : path.bytes ≠ [] :=
      Path.bytes_ne_nil_of_isAbsolute (Path.isAbsolute_join _ habsolute)
    exact ⟨looksLike_of_calledWith (hargument hvalue setting time) (hargument hpath other later) rfl
        hresolved,
      looksLike_of_calledWith (hvariable hvalue time) (hvariable hpath later) rfl hresolved⟩

/-- A run on a directory, below a config that asks for a report for programs. -/
private def programmatic : Situation where
  invocation := ⟨[CommandLine.spelled "."], {}, .ofString "/w/src", false, false, ""⟩
  files :=
    { status := fun path =>
        if path = .ofString "/w/otabudget.toml" then .ok ⟨.regular, 5⟩ else .error (.os 2)
      opening := fun _ => .ok ()
      contents := fun _ =>
        .ok (Utf8.encode "version = 1\n[output]\nformat = \"json\"\n".toList) }
  refusal := none

theorem programmatic_named_alike :
    (programmatic.discovering "").LooksLike
      (programmatic.byArgument (CommandLine.spelled "/w/otabudget.toml") (some []) "later") ∧
    (programmatic.byVariable (CommandLine.spelled "../otabudget.toml") "").LooksLike
      (programmatic.byVariable (CommandLine.spelled "/w/src/../otabudget.toml") "later") := by
  have hparse : CommandLine.parse {} [CommandLine.spelled "."] =
      .ok { artifact := some (.ofString ".") } := by decide +kernel
  obtain ⟨hfound, -, hjoin⟩ := config_named_alike programmatic _ (by decide) hparse rfl
  have hfinds : ((Discovery.findConfig (.ofString "/w/src")).play programmatic.files none).1 =
      some (.ofString "/w/otabudget.toml") := by decide +kernel
  exact ⟨(hfound _ hfinds _ _ _).1, (hjoin _ (by decide) none none _ _).2⟩

end Situation

end SizeGate
