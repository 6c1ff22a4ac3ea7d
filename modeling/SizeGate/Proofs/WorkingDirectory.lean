import Mathlib.Data.List.Induction
import SizeGate.FileTree
import SizeGate.Proofs.MeasuredPath
import SizeGate.Proofs.Path.Components
import SizeGate.Proofs.SameRun

/-!
Runs from a directory and from one further down.

Directories are given by their names from the root. Where no directory on the way down has a config
or a boundary, a search comes to the same result from both ends. Main statement: the same command
then loads the same config in both directories, and cannot be told apart if the config is refused or
names the artifact (`runs_alike_from_below`).
-/

namespace SizeGate

open CommandLine (Options)
open FileTree (absolute)
open Session (Step)

namespace Path

variable {names more : List Bytes} {name : Bytes}

theorem start_absolute (names : List Bytes) : start (absolute names).bytes = [slash] := by
  cases names with
  | nil => rfl
  | cons name rest => simp [absolute, start]

/-- The last name is put behind the others and a slash, if there are others. -/
theorem reverse_body_absolute (names : List Bytes) (name : Bytes) :
    (body (absolute (names ++ [name])).bytes).reverse = name.reverse ++
      (if names = [] then [] else slash :: (body (absolute names).bytes).reverse) := by
  rw [body, body, start_absolute, start_absolute]
  cases names with
  | nil => simp [absolute]
  | cons first rest => simp [absolute]

theorem trimEnd_body_absolute (h : ∀ name ∈ names, IsName name) :
    trimEnd (body (absolute names).bytes).reverse = (body (absolute names).bytes).reverse := by
  rcases List.eq_nil_or_concat' names with rfl | ⟨front, last, rfl⟩
  · rfl
  · rw [reverse_body_absolute]
    exact trimEnd_reverse_append (h last (by simp)) _

theorem parent?_absolute (h : ∀ other ∈ names ++ [name], IsName other) :
    (absolute (names ++ [name])).parent? = some (absolute names) := by
  have hname : IsName name := h name (by simp)
  have htrim := trimEnd_body_absolute h
  have hbelow := trimEnd_body_absolute fun other member => h other (List.mem_append_left _ member)
  have hdrop : dropName (body (absolute (names ++ [name])).bytes).reverse =
      (body (absolute names).bytes).reverse := by
    rw [reverse_body_absolute, dropName_reverse_append hname]
    · split
      · next hnil =>
        subst hnil
        rfl
      · rfl
    · intro b member
      split at member
      · cases member
      · exact (Option.some.inj member).symm
  have hnonempty : (body (absolute (names ++ [name])).bytes).reverse ≠ [] := by
    rw [reverse_body_absolute]
    simp [hname.ne_nil]
  simp only [parent?, htrim, hdrop, hbelow, start_absolute, List.reverse_reverse]
  rw [if_pos hnonempty, ← start_absolute names, start_append_body]

/-- As many steps up as there are more names lead to the directory without them. -/
theorem ancestor?_absolute (h : ∀ name ∈ names ++ more, IsName name) :
    (absolute (names ++ more)).ancestor? more.length = some (absolute names) := by
  induction more using List.reverseRecOn with
  | nil =>
    rw [List.append_nil]
    rfl
  | append_singleton front last ih =>
    rw [← List.append_assoc] at h ⊢
    have hfront : ∀ name ∈ names ++ front, IsName name :=
      fun name member => h name (List.mem_append_left _ member)
    rw [List.length_append, List.length_singleton, ancestor?_succ, parent?_absolute h]
    exact ih hfront

/-- Fewer steps up lead to a directory on the way. -/
theorem exists_ancestor?_absolute (h : ∀ name ∈ names ++ more, IsName name) {steps : Nat}
    (hlt : steps < more.length) : ∃ between, between <+: more ∧ between ≠ [] ∧
      (absolute (names ++ more)).ancestor? steps = some (absolute (names ++ between)) := by
  have hsplit : more.take (more.length - steps) ++ more.drop (more.length - steps) = more :=
    List.take_append_drop _ _
  have hlength : (more.drop (more.length - steps)).length = steps := by
    rw [List.length_drop]
    omega
  refine ⟨more.take (more.length - steps), List.take_prefix _ _, ?_, ?_⟩
  · intro hnil
    have hnone := congrArg List.length hnil
    rw [List.length_take, List.length_nil] at hnone
    omega
  · rw [← hsplit, ← List.append_assoc] at h
    have hancestor := ancestor?_absolute h
    rwa [hlength, List.append_assoc, hsplit] at hancestor

end Path

namespace Discovery

variable (files : FileSystem)

/-- A search that is not ended by then goes on as one from further up. -/
theorem finds_iff_of_isClear {start top : Path} {steps : Nat}
    (h : start.ancestor? steps = some top) (hclear : IsClear files start steps) (path : Path) :
    Finds files start path ↔ Finds files top path := by
  induction steps generalizing start with
  | zero =>
    cases h
    rfl
  | succ steps ih =>
    rw [Path.ancestor?_succ] at h
    obtain ⟨parent, hparent, htop⟩ := Option.bind_eq_some_iff.mp h
    obtain ⟨⟨hconfig, hboundary⟩, habove⟩ := (isClear_succ_iff files hparent steps).mp hclear
    rw [finds_iff_of_passed files hconfig hboundary hparent]
    exact ih htop habove

theorem search_ancestors_of_isClear {start top : Path} {steps : Nat} (refusal : Option IoError)
    (h : start.ancestor? steps = some top) (hclear : IsClear files start steps) :
    ((search start.ancestors).play files refusal).1 =
      ((search top.ancestors).play files refusal).1 := by
  refine Option.ext fun path => ?_
  rw [search_ancestors_eq_some_iff, search_ancestors_eq_some_iff]
  exact finds_iff_of_isClear files h hclear path

/-- From the names above to those below, no directory but the first has a config or a boundary. -/
def IsClearBetween (names more : List Bytes) : Prop :=
  ∀ between, between <+: more → between ≠ [] →
    ¬ HoldsConfig files (absolute (names ++ between)) ∧
      ¬ IsBoundary files (absolute (names ++ between))

variable {files} {names more : List Bytes}

theorem IsClearBetween.search_ancestors (h : IsClearBetween files names more)
    (hnames : ∀ name ∈ names ++ more, Path.IsName name) (refusal : Option IoError) :
    ((search (absolute (names ++ more)).ancestors).play files refusal).1 =
      ((search (absolute names).ancestors).play files refusal).1 := by
  refine search_ancestors_of_isClear files refusal (Path.ancestor?_absolute hnames) ?_
  intro steps hlt directory hdirectory
  obtain ⟨between, hprefix, hnonempty, hbetween⟩ := Path.exists_ancestor?_absolute hnames hlt
  cases hdirectory.symm.trans hbetween
  exact h between hprefix hnonempty

/-- A config that is found has a directory. -/
theorem Finds.exists_parent? {start path : Path} (h : Finds files start path) :
    ∃ directory, path.parent? = some directory := by
  obtain ⟨steps, directory, -, rfl, -, -⟩ := h
  have hlast : (directory.join Config.fileName).bytes.getLast? = some 0x6C :=
    (Path.getLast?_join directory (by decide)).trans (by decide)
  exact Path.exists_parent?_of_getLast? hlast (by decide) (by decide)

end Discovery

namespace Situation

variable {s t : Situation} {options : Options} {found : Option Path} {config : Config}
  {path : Path}

theorem read_mem_readings (s : Situation) (path : Path) :
    Step.read path ∈ s.readings (some path) := by
  simp [readings, Run.settings, Config.load, Session.log, Session.play_bind, Session.play]

theorem eq_of_read_mem_readings (h : Step.read path ∈ s.readings found) : found = some path := by
  cases isPreparing_of_mem_readings h with
  | read hfound => exact hfound

theorem read_notMem_lookups (s : Situation) (options : Options) (path : Path) :
    Step.read path ∉ s.lookups options := by
  intro member
  obtain ⟨other, hother⟩ := looked_of_mem_lookups member
  cases hother

theorem Ending.read_notMem {code : ExitCode} {ending : List Step}
    (h : s.Ending options found config code ending) (path : Path) : Step.read path ∉ ending := by
  intro member
  obtain ⟨after, rfl, hclosing⟩ := h.exists_closing
  rcases List.mem_cons.mp member with hlooked | hafter
  · cases hlooked
  · cases hclosing _ hafter with
    | measuring hmeasuring => cases hmeasuring

/-- A run reads the config that it comes to and nothing else. -/
theorem read_mem_steps_iff (s : Situation) (path : Path) : Step.read path ∈ s.steps ↔
    ∃ options, s.Asks options ∧
      ((Discovery.resolveConfig options.config s.invocation.cwd).play s.files s.refusal).1 =
        .ok (some path) := by
  constructor
  · intro member
    have hcourse := s.course
    generalize s.exitCode = code at hcourse
    generalize s.steps = steps at hcourse member
    cases hcourse with
    | misused _ | answered _ _ | unanswered _ _ => simp at member
    | noFile _ _ _ => simp [read_notMem_lookups] at member
    | rejected hasks hgoes hregular _ =>
      simp only [List.mem_append, read_notMem_lookups, false_or, List.mem_singleton, reduceCtorEq,
        or_false] at member
      cases eq_of_read_mem_readings member
      exact ⟨_, hasks, resolveConfig_of_goesBy hasks hgoes hregular⟩
    | checked hsettles hending =>
      simp only [List.mem_append, List.mem_cons, read_notMem_lookups, false_or, reduceCtorEq,
        hending.read_notMem, or_false] at member
      cases eq_of_read_mem_readings member
      exact ⟨_, hsettles.asks, hsettles.resolveConfig⟩
  · rintro ⟨options, hasks, hresolve⟩
    obtain ⟨hgoes, hregular⟩ := goesBy_of_resolveConfig hasks hresolve
    have hreading := read_mem_readings s path
    rcases s.files.reads_or_rejects path with ⟨config, hreads⟩ | ⟨problem, hrejects⟩
    · obtain ⟨code, ending, hending⟩ := exists_ending s options (some path) config
      rw [(Course.checked (.byFile hasks hgoes hregular hreads) hending).steps_eq]
      simp [hreading]
    · rw [(Course.rejected hasks hgoes hregular hrejects).steps_eq]
      simp [hreading]

/-- The same command in another directory and at another time. -/
def startedIn (s : Situation) (cwd : Path) (time : String) : Situation :=
  { s with invocation := { s.invocation with cwd, time } }

section Directories

variable {cwd other : Path} {time later : String}

/-- Where no config is named, all that counts of a directory is what is found from there. -/
theorem startedIn_resolveConfig (hconfig : options.config = none)
    (hsearch : ((Discovery.search other.ancestors).play s.files s.refusal).1 =
      ((Discovery.search cwd.ancestors).play s.files s.refusal).1) :
    let top := s.startedIn cwd time
    let below := s.startedIn other later
    ((Discovery.resolveConfig options.config below.invocation.cwd).play
        below.files below.refusal).1 =
      ((Discovery.resolveConfig options.config top.invocation.cwd).play
        top.files top.refusal).1 := by
  intro top below
  rw [hconfig, Discovery.play_resolveConfig_none, Discovery.play_resolveConfig_none]
  exact congrArg Except.ok hsearch

theorem Settles.not_hasBadConfig (h : s.Settles options found config) : ¬ s.HasBadConfig := by
  rintro ⟨path, problem, hgoes, hrejects⟩
  by_cases hregular : s.IsRegular path
  · cases h.resolveConfig.symm.trans (resolveConfig_of_goesBy h.asks hgoes hregular)
    have hsettings := h.settings
    rw [settings_some, Config.load_of_rejects s.refusal hrejects] at hsettings
    cases hsettings
  · cases hgoes with
    | named hnamed =>
      cases h.resolveConfig.symm.trans (resolveConfig_of_noFile h.asks hnamed hregular)
    | found _ hfinds => exact hregular hfinds.isRegular

/-- What a config that was found names is seen from the directory of the config, wherever the run
was started. -/
theorem Settles.artifact_startedIn
    (h : (s.startedIn cwd time).Settles options found config) (hconfig : options.config = none)
    (hargument : options.artifact = none) (hnames : config.artifact ≠ none) :
    (s.startedIn other later).artifact options found config =
      (s.startedIn cwd time).artifact options found config := by
  obtain ⟨named, hnamed⟩ := Option.ne_none_iff_exists'.mp hnames
  cases h with
  | byDefault _ _ => cases hnamed
  | byFile hasks hgoes _ _ =>
    cases hgoes with
    | named hnamed => cases hconfig.symm.trans ((namesConfig_iff hasks _).mp hnamed)
    | found _ hfinds =>
      obtain ⟨directory, hparent⟩ := hfinds.exists_parent?
      rw [artifact, artifact, hargument, configured_eq_some hparent hnamed]
      rfl

theorem isTwin_startedIn (hasks : s.Asks options) (hconfig : options.config = none)
    (hargument : options.artifact = none)
    (hsearch : ((Discovery.search other.ancestors).play s.files s.refusal).1 =
      ((Discovery.search cwd.ancestors).play s.files s.refusal).1)
    (hnames : ∀ found config, (s.startedIn cwd time).Settles options found config →
      config.artifact ≠ none) :
    (s.startedIn cwd time).IsTwin (s.startedIn other later) options options where
  asks := hasks
  asks_others := hasks
  options_eq := rfl
  env := rfl
  isTerminal := rfl
  files := rfl
  refusal := rfl
  resolved := startedIn_resolveConfig hconfig hsearch
  artifact found config hsettles :=
    hsettles.artifact_startedIn hconfig hargument (hnames found config hsettles)

/-- A command line that asks for no check is answered alike everywhere. -/
theorem looksLike_of_not_asks (h : ∀ options, ¬ s.Asks options) :
    (s.startedIn cwd time).LooksLike (s.startedIn other later) := by
  cases hparse : CommandLine.parse s.invocation.env s.invocation.args with
  | ok options => exact absurd hparse (h options)
  | error stop =>
    have hrun :
        run (s.startedIn other later).invocation = run (s.startedIn cwd time).invocation := by
      cases stop <;> simp [run, startedIn, hparse]
    have hsteps : (s.startedIn other later).steps = (s.startedIn cwd time).steps := by
      rw [steps, hrun]
      rfl
    refine ⟨?_, ?_, fun clock => ?_⟩
    · rw [exitCode, hrun]
      rfl
    · rw [hsteps]
      exact .same _
    · rw [hsteps]
      rfl

end Directories

/-- From a directory and from one below it, with no config and no boundary on the way down, a search
comes to the same result. So the same command that names neither a config nor an artifact reads the
same config in both, if there is one, and comes to the same settings. Where that config is refused
or names the artifact, and where no check is asked for at all, the runs cannot be told apart. -/
theorem runs_alike_from_below (s : Situation) (names more : List Bytes) (time later : String)
    (hnames : ∀ name ∈ names ++ more, Path.IsName name)
    (hclear : Discovery.IsClearBetween s.files names more) :
    let top := s.startedIn (absolute names) time
    let below := s.startedIn (absolute (names ++ more)) later
    ((Discovery.findConfig (absolute (names ++ more))).play s.files s.refusal).1 =
      ((Discovery.findConfig (absolute names)).play s.files s.refusal).1 ∧
    ((∀ options, s.Asks options → options.config = none ∧ options.artifact = none) →
      (∀ path, Step.read path ∈ below.steps ↔ Step.read path ∈ top.steps) ∧
      (∀ options found config,
        below.Settles options found config ↔ top.Settles options found config) ∧
      ((∀ options, ¬ s.Asks options) ∨ top.HasBadConfig ∨
        (∃ options found config, top.Settles options found config ∧ config.artifact ≠ none) →
        top.LooksLike below)) := by
  intro top below
  have hsearch := hclear.search_ancestors hnames s.refusal
  refine ⟨hsearch, fun hplain => ⟨fun path => ?_, fun options found config => ?_, ?_⟩⟩
  · rw [read_mem_steps_iff, read_mem_steps_iff]
    refine exists_congr fun options => and_congr_right fun hasks => ?_
    rw [startedIn_resolveConfig (hplain options hasks).1 hsearch]
  · rw [settles_iff, settles_iff]
    refine and_congr_right fun hasks => ?_
    rw [startedIn_resolveConfig (hplain options hasks).1 hsearch]
    exact Iff.rfl
  · intro hcase
    by_cases hasks : ∃ options, s.Asks options
    · obtain ⟨options, hasks⟩ := hasks
      obtain ⟨hconfig, hargument⟩ := hplain options hasks
      have hartifact : ∀ found config, top.Settles options found config →
          config.artifact ≠ none := by
        intro found config hsettles
        rcases hcase with hnone | hbad | ⟨_, _, _, hother, hartifact⟩
        · exact absurd hasks (hnone options)
        · exact absurd hbad hsettles.not_hasBadConfig
        · obtain ⟨-, -, rfl⟩ := hsettles.unique hother
          exact hartifact
      exact (isTwin_startedIn hasks hconfig hargument hsearch hartifact).looksLike
    · exact looksLike_of_not_asks fun options h => hasks ⟨options, h⟩

/-- Runs somewhere below a config that names an artifact which is not there. -/
private def unbuilt : Situation where
  invocation := ⟨[], {}, .ofString "/", false, false, ""⟩
  files :=
    { status := fun path =>
        if path = .ofString "/w/otabudget.toml" then .ok ⟨.regular, 5⟩ else .error (.os 2)
      opening := fun _ => .ok ()
      contents := fun _ =>
        .ok (Utf8.encode "version = 1\n[artifact]\npath = \"app.bin\"\n".toList) }
  refusal := none

theorem unbuilt_alike_from_below :
    (unbuilt.startedIn (.ofString "/w") "").LooksLike
      (unbuilt.startedIn (.ofString "/w/src") "later") ∧
    Step.read (.ofString "/w/otabudget.toml") ∈
      (unbuilt.startedIn (.ofString "/w/src") "later").steps := by
  have hnames : ∀ name ∈ [Utf8.encode ['w']] ++ [Utf8.encode ['s', 'r', 'c']],
      Path.IsName name := by
    intro name member
    simp only [List.cons_append, List.nil_append, List.mem_cons, List.not_mem_nil, or_false]
      at member
    rcases member with rfl | rfl <;> exact ⟨by decide, by decide, by decide⟩
  have hclear : Discovery.IsClearBetween unbuilt.files [Utf8.encode ['w']]
      [Utf8.encode ['s', 'r', 'c']] := by
    intro between hprefix hnonempty
    rcases List.prefix_cons_iff.mp hprefix with rfl | ⟨rest, rfl, hrest⟩
    · exact absurd rfl hnonempty
    · cases List.prefix_nil.mp hrest
      decide
  have hparse : CommandLine.parse {} [] = .ok {} := by rfl
  have hplain : ∀ options, unbuilt.Asks options →
      options.config = none ∧ options.artifact = none := by
    intro options hasks
    cases Except.ok.inj (hasks.symm.trans hparse)
    exact ⟨rfl, rfl⟩
  have hreads : unbuilt.files.Reads (.ofString "/w/otabudget.toml")
      ⟨some (.ofString "app.bin"), none⟩ :=
    ⟨_, rfl, eq_ok_of_toOption_eq_some (by decide +kernel)⟩
  have hsettles : (unbuilt.startedIn (absolute [Utf8.encode ['w']]) "").Settles {}
      (some (.ofString "/w/otabudget.toml")) ⟨some (.ofString "app.bin"), none⟩ :=
    settles_of_reads hparse (eq_ok_of_toOption_eq_some (by decide +kernel)) hreads
  obtain ⟨-, hruns⟩ := runs_alike_from_below unbuilt _ _ "" "later" hnames hclear
  obtain ⟨hread, -, hlooks⟩ := hruns hplain
  refine ⟨hlooks (.inr (.inr ⟨_, _, _, hsettles, by simp⟩)), (hread _).mpr ?_⟩
  exact (read_mem_steps_iff _ _).mpr ⟨_, hparse, hsettles.resolveConfig⟩

end Situation

end SizeGate
