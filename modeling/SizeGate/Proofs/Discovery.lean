import SizeGate.Discovery
import SizeGate.Proofs.Path

/-!
Which config a search finds.

A search is settled by two answers for each directory on the way up: whether a regular file of the
config's name stands there, and whether anything stands there under the name of the boundary.
`Finds` says in these terms, and by the number of steps up, what is found. Main statement: the
search finds exactly that, or nothing if there is no such step, and no other answer of the file
system has a say (`findConfig_eq_some_iff_finds`).
-/

namespace SizeGate.Discovery

open Session (Step)

/-- A regular file of the config's name stands in the directory. -/
def HoldsConfig (files : FileSystem) (directory : Path) : Prop :=
  FileSystem.isRegular (files.status (directory.join Config.fileName)) = true

/-- Something stands in the directory under the name of the boundary. -/
def IsBoundary (files : FileSystem) (directory : Path) : Prop :=
  FileSystem.exists? (files.status (directory.join boundary)) = true

instance (files : FileSystem) (directory : Path) : Decidable (HoldsConfig files directory) :=
  inferInstanceAs (Decidable (_ = true))

instance (files : FileSystem) (directory : Path) : Decidable (IsBoundary files directory) :=
  inferInstanceAs (Decidable (_ = true))

/-- No boundary bears the name of a config. -/
theorem join_boundary_ne_join_fileName (directory other : Path) :
    directory.join boundary ≠ other.join Config.fileName := by
  intro heq
  have hlast := congrArg (fun path => path.bytes.getLast?) heq
  have hboundary : boundary.bytes ≠ [] := by decide
  have hfileName : Config.fileName.bytes ≠ [] := by decide
  simp only [Path.getLast?_join _ hboundary, Path.getLast?_join _ hfileName] at hlast
  exact absurd hlast (by decide)

/-- Nothing less than so many steps up from `start` ends a search. -/
def IsClear (files : FileSystem) (start : Path) (steps : Nat) : Prop :=
  ∀ earlier < steps, ∀ directory, start.ancestor? earlier = some directory →
    ¬ HoldsConfig files directory ∧ ¬ IsBoundary files directory

/-- The config at `path` is the nearest one upwards from `start`, and no boundary lies before its
directory. The directory itself may be one. -/
def Finds (files : FileSystem) (start path : Path) : Prop :=
  ∃ steps directory, start.ancestor? steps = some directory ∧
    path = directory.join Config.fileName ∧ HoldsConfig files directory ∧
    IsClear files start steps

theorem Finds.isRegular {files : FileSystem} {start path : Path} (h : Finds files start path) :
    FileSystem.isRegular (files.status path) = true := by
  obtain ⟨steps, directory, -, rfl, hholds, -⟩ := h
  exact hholds

section Search

variable (files : FileSystem) (refusal : Option IoError)

/-! The three ways in which a search can go at one directory: value and steps. -/

theorem play_search_of_holdsConfig {directory : Path} (h : HoldsConfig files directory)
    (above : List Path) :
    let candidate := directory.join Config.fileName
    (search (directory :: above)).play files refusal =
      (some candidate, [.looked candidate (files.status candidate)]) := by
  simp only [HoldsConfig] at h
  simp [search, Session.play_bind, h]

theorem play_search_of_isBoundary {directory : Path} (hconfig : ¬ HoldsConfig files directory)
    (h : IsBoundary files directory) (above : List Path) :
    let candidate := directory.join Config.fileName
    let mark := directory.join boundary
    (search (directory :: above)).play files refusal =
      (none, [.looked candidate (files.status candidate), .looked mark (files.status mark)]) := by
  simp only [HoldsConfig, IsBoundary] at hconfig h
  simp [search, Session.play_bind, hconfig, h]

theorem play_search_of_passed {directory : Path} (hconfig : ¬ HoldsConfig files directory)
    (h : ¬ IsBoundary files directory) (above : List Path) :
    let candidate := directory.join Config.fileName
    let mark := directory.join boundary
    (search (directory :: above)).play files refusal =
      (((search above).play files refusal).1,
        .looked candidate (files.status candidate) :: .looked mark (files.status mark) ::
          ((search above).play files refusal).2) := by
  simp only [HoldsConfig, IsBoundary] at hconfig h
  simp [search, Session.play_bind, hconfig, h]

/-- A search does nothing but ask what paths lead to. -/
theorem looked_of_mem_search (directories : List Path) :
    ∀ step ∈ ((search directories).play files refusal).2,
      ∃ path, step = .looked path (files.status path) := by
  induction directories with
  | nil =>
    intro step member
    cases member
  | cons directory above ih =>
    intro step member
    by_cases hconfig : HoldsConfig files directory
    · rw [play_search_of_holdsConfig files refusal hconfig, List.mem_singleton] at member
      exact ⟨_, member⟩
    by_cases hboundary : IsBoundary files directory
    · rw [play_search_of_isBoundary files refusal hconfig hboundary, List.mem_cons,
        List.mem_singleton] at member
      rcases member with hfirst | hsecond
      · exact ⟨_, hfirst⟩
      · exact ⟨_, hsecond⟩
    · rw [play_search_of_passed files refusal hconfig hboundary, List.mem_cons,
        List.mem_cons] at member
      rcases member with hfirst | hsecond | hrest
      · exact ⟨_, hfirst⟩
      · exact ⟨_, hsecond⟩
      · exact ih step hrest

/-- A directory below the first step counts as one below the start, and the start as step zero. -/
theorem isClear_succ_iff {start parent : Path} (h : start.parent? = some parent) (steps : Nat) :
    IsClear files start (steps + 1) ↔
      (¬ HoldsConfig files start ∧ ¬ IsBoundary files start) ∧ IsClear files parent steps := by
  constructor
  · intro hclear
    refine ⟨hclear 0 (by omega) start rfl, ?_⟩
    intro earlier hlt directory hdirectory
    refine hclear (earlier + 1) (by omega) directory ?_
    rw [Path.ancestor?_succ, h]
    exact hdirectory
  · rintro ⟨hstart, hclear⟩ earlier hlt directory hdirectory
    cases earlier with
    | zero =>
      cases hdirectory
      exact hstart
    | succ earlier =>
      rw [Path.ancestor?_succ, h] at hdirectory
      exact hclear earlier (by omega) directory hdirectory

theorem finds_iff_of_holdsConfig {start : Path} (h : HoldsConfig files start) (path : Path) :
    Finds files start path ↔ path = start.join Config.fileName := by
  constructor
  · rintro ⟨steps, directory, hdirectory, hpath, -, hclear⟩
    cases steps with
    | zero =>
      cases hdirectory
      exact hpath
    | succ steps => exact absurd h (hclear 0 (by omega) start rfl).1
  · intro hpath
    exact ⟨0, start, rfl, hpath, h, fun earlier hlt => absurd hlt (by omega)⟩

theorem not_finds_of_isBoundary {start : Path} (hconfig : ¬ HoldsConfig files start)
    (h : IsBoundary files start) (path : Path) : ¬ Finds files start path := by
  rintro ⟨steps, directory, hdirectory, -, hholds, hclear⟩
  cases steps with
  | zero =>
    cases hdirectory
    exact hconfig hholds
  | succ steps => exact (hclear 0 (by omega) start rfl).2 h

theorem not_finds_of_parent?_eq_none {start : Path} (hconfig : ¬ HoldsConfig files start)
    (h : start.parent? = none) (path : Path) : ¬ Finds files start path := by
  rintro ⟨steps, directory, hdirectory, -, hholds, -⟩
  cases steps with
  | zero =>
    cases hdirectory
    exact hconfig hholds
  | succ steps =>
    rw [Path.ancestor?_succ, h] at hdirectory
    cases hdirectory

theorem finds_iff_of_passed {start parent : Path} (hconfig : ¬ HoldsConfig files start)
    (hboundary : ¬ IsBoundary files start) (h : start.parent? = some parent) (path : Path) :
    Finds files start path ↔ Finds files parent path := by
  constructor
  · rintro ⟨steps, directory, hdirectory, hpath, hholds, hclear⟩
    cases steps with
    | zero =>
      cases hdirectory
      exact absurd hholds hconfig
    | succ steps =>
      rw [Path.ancestor?_succ, h] at hdirectory
      exact ⟨steps, directory, hdirectory, hpath, hholds,
        ((isClear_succ_iff files h steps).mp hclear).2⟩
  · rintro ⟨steps, directory, hdirectory, hpath, hholds, hclear⟩
    refine ⟨steps + 1, directory, ?_, hpath, hholds,
      (isClear_succ_iff files h steps).mpr ⟨⟨hconfig, hboundary⟩, hclear⟩⟩
    rw [Path.ancestor?_succ, h]
    exact hdirectory

/-- A search from a directory upwards ends with the config that `Finds` describes. The induction is
on the chain of parents; each way the search can go at one directory is a lemma on the search and
one on `Finds`. -/
theorem search_ancestors_eq_some_iff (start path : Path) :
    ((search start.ancestors).play files refusal).1 = some path ↔ Finds files start path := by
  induction start using Path.ancestors.induct with
  | case1 start ih =>
    obtain ⟨above, habove⟩ := Path.exists_ancestors_eq_cons start
    by_cases hconfig : HoldsConfig files start
    · rw [habove, play_search_of_holdsConfig files refusal hconfig,
        finds_iff_of_holdsConfig files hconfig, Option.some.injEq, eq_comm]
    by_cases hboundary : IsBoundary files start
    · rw [habove, play_search_of_isBoundary files refusal hconfig hboundary]
      simp [not_finds_of_isBoundary files hconfig hboundary path]
    rw [habove, play_search_of_passed files refusal hconfig hboundary]
    cases hparent : start.parent? with
    | none =>
      rw [Path.ancestors_of_parent?_eq_none hparent] at habove
      cases habove
      simp [search, not_finds_of_parent?_eq_none files hconfig hparent path]
    | some parent =>
      rw [Path.ancestors_of_parent?_eq_some hparent] at habove
      cases habove
      rw [finds_iff_of_passed files hconfig hboundary hparent]
      exact ih parent hparent

end Search

/-- For each directory from `start` up to the first boundary, that one included, the two answers
that settle a search are the same in both file systems. -/
def AgreeToBoundary (files other : FileSystem) (start : Path) : Prop :=
  ∀ steps directory, start.ancestor? steps = some directory →
    (∀ earlier < steps, ∀ below, start.ancestor? earlier = some below →
      ¬ IsBoundary files below) →
    (HoldsConfig files directory ↔ HoldsConfig other directory) ∧
      (IsBoundary files directory ↔ IsBoundary other directory)

theorem AgreeToBoundary.parent {files other : FileSystem} {start parent : Path}
    (h : AgreeToBoundary files other start) (hboundary : ¬ IsBoundary files start)
    (hparent : start.parent? = some parent) : AgreeToBoundary files other parent := by
  intro steps directory hdirectory hfree
  refine h (steps + 1) directory ?_ ?_
  · rw [Path.ancestor?_succ, hparent]
    exact hdirectory
  · intro earlier hlt below hbelow
    cases earlier with
    | zero =>
      cases hbelow
      exact hboundary
    | succ earlier =>
      rw [Path.ancestor?_succ, hparent] at hbelow
      exact hfree earlier (by omega) below hbelow

theorem search_ancestors_congr {files other : FileSystem} (refusal : Option IoError)
    {start : Path} (h : AgreeToBoundary files other start) :
    ((search start.ancestors).play other refusal).1 =
      ((search start.ancestors).play files refusal).1 := by
  induction start using Path.ancestors.induct with
  | case1 start ih =>
    obtain ⟨above, habove⟩ := Path.exists_ancestors_eq_cons start
    obtain ⟨hholds, hmarks⟩ := h 0 start rfl fun earlier hlt => absurd hlt (by omega)
    by_cases hconfig : HoldsConfig files start
    · rw [habove, play_search_of_holdsConfig files refusal hconfig,
        play_search_of_holdsConfig other refusal (hholds.mp hconfig)]
    have hconfig' : ¬ HoldsConfig other start := fun hother => hconfig (hholds.mpr hother)
    by_cases hboundary : IsBoundary files start
    · rw [habove, play_search_of_isBoundary files refusal hconfig hboundary,
        play_search_of_isBoundary other refusal hconfig' (hmarks.mp hboundary)]
    have hboundary' : ¬ IsBoundary other start := fun hother => hboundary (hmarks.mpr hother)
    rw [habove, play_search_of_passed files refusal hconfig hboundary,
      play_search_of_passed other refusal hconfig' hboundary']
    cases hparent : start.parent? with
    | none =>
      rw [Path.ancestors_of_parent?_eq_none hparent] at habove
      cases habove
      rfl
    | some parent =>
      rw [Path.ancestors_of_parent?_eq_some hparent] at habove
      cases habove
      exact ih parent hparent (h.parent hboundary hparent)

/-- A search from any directory, in any file system, finds the nearest config that is a regular file
and stands no higher than the first boundary, and finds nothing if there is none. A config beside
the boundary counts. What is no regular file neither ends the search nor is taken, and nothing above
the first boundary can make a difference. -/
theorem findConfig_eq_some_iff_finds (files : FileSystem) (refusal : Option IoError)
    (start : Path) :
    let found := ((findConfig start).play files refusal).1
    (∀ path, found = some path ↔ Finds files start path) ∧
      (found = none ↔ ∀ path, ¬ Finds files start path) ∧
      ∀ other, AgreeToBoundary files other start →
        ((findConfig start).play other refusal).1 = found := by
  have hfinds := search_ancestors_eq_some_iff files refusal start
  refine ⟨hfinds, ?_, fun other h => search_ancestors_congr refusal h⟩
  rw [Option.eq_none_iff_forall_ne_some]
  exact forall_congr' fun path => not_congr (hfinds path)

/-- A config that is named is looked at and nothing else is. -/
theorem play_resolveConfig_some (files : FileSystem) (refusal : Option IoError)
    (named cwd : Path) :
    let path := cwd.join named
    (resolveConfig (some named) cwd).play files refusal =
      (if FileSystem.isRegular (files.status path) then .ok (some path)
        else .error (.config path .fileMissing), [.looked path (files.status path)]) := by
  cases h : FileSystem.isRegular (files.status (cwd.join named)) <;>
    simp [resolveConfig, Session.play_bind, h]

theorem play_resolveConfig_none (files : FileSystem) (refusal : Option IoError) (cwd : Path) :
    (resolveConfig none cwd).play files refusal =
      (.ok ((search cwd.ancestors).play files refusal).1,
        ((search cwd.ancestors).play files refusal).2) := by
  simp [resolveConfig, findConfig, Session.play_bind]

end SizeGate.Discovery
