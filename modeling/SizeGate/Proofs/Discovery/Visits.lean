import Mathlib.Data.List.Nodup
import SizeGate.Proofs.Discovery
import SizeGate.Proofs.Path.Components

/-!
Which directories a search visits.

`Visits` goes up from a directory, one parent at a time, until a config or a boundary is found there
or no parent is left. Main statement: from every directory it comes to an end, which is what a
search does; a step up takes one component away, so the directories are few and no path is asked for
twice (`findConfig_ends`).
-/

namespace SizeGate.Discovery

/-- The directories that are visited from a directory upwards, in order. -/
inductive Visits (files : FileSystem) : Path → List Path → Prop
  | found {directory : Path} (h : HoldsConfig files directory) :
    Visits files directory [directory]
  | stopped {directory : Path} (hconfig : ¬ HoldsConfig files directory)
      (h : IsBoundary files directory) : Visits files directory [directory]
  | top {directory : Path} (hconfig : ¬ HoldsConfig files directory)
      (hboundary : ¬ IsBoundary files directory) (h : directory.parent? = none) :
    Visits files directory [directory]
  | up {directory parent : Path} {above : List Path} (hconfig : ¬ HoldsConfig files directory)
      (hboundary : ¬ IsBoundary files directory) (h : directory.parent? = some parent)
      (habove : Visits files parent above) : Visits files directory (directory :: above)

/-- The paths that are asked for in a directory. A boundary counts only where there is no config. -/
def probes (files : FileSystem) (directory : Path) : List Path :=
  directory.join Config.fileName ::
    if HoldsConfig files directory then [] else [directory.join boundary]

variable {files : FileSystem} {start path : Path} {visited : List Path}

theorem probes_of_holdsConfig (h : HoldsConfig files start) :
    probes files start = [start.join Config.fileName] := by
  rw [probes, if_pos h]

theorem probes_of_not_holdsConfig (h : ¬ HoldsConfig files start) :
    probes files start = [start.join Config.fileName, start.join boundary] := by
  rw [probes, if_neg h]

/-- Wherever it starts, the way up comes to an end. -/
theorem exists_visits (files : FileSystem) (start : Path) :
    ∃ visited, Visits files start visited := by
  induction start using Path.ancestors.induct with
  | case1 start ih =>
    by_cases hconfig : HoldsConfig files start
    · exact ⟨_, .found hconfig⟩
    by_cases hboundary : IsBoundary files start
    · exact ⟨_, .stopped hconfig hboundary⟩
    cases hparent : start.parent? with
    | none => exact ⟨_, .top hconfig hboundary hparent⟩
    | some parent =>
      obtain ⟨visited, hvisits⟩ := ih parent hparent
      exact ⟨_, .up hconfig hboundary hparent hvisits⟩

/-- A search goes that way: it asks for the paths in the directories that are visited, in order, and
does nothing else. -/
theorem Visits.steps_eq (h : Visits files start visited) (refusal : Option IoError) :
    ((search start.ancestors).play files refusal).2 =
      (visited.flatMap (probes files)).map fun path => .looked path (files.status path) := by
  induction h with
  | found hconfig =>
    obtain ⟨above, habove⟩ := Path.exists_ancestors_eq_cons _
    rw [habove, play_search_of_holdsConfig files refusal hconfig, List.flatMap_singleton,
      probes_of_holdsConfig hconfig]
    rfl
  | stopped hconfig hboundary =>
    obtain ⟨above, habove⟩ := Path.exists_ancestors_eq_cons _
    rw [habove, play_search_of_isBoundary files refusal hconfig hboundary,
      List.flatMap_singleton, probes_of_not_holdsConfig hconfig]
    rfl
  | top hconfig hboundary hparent =>
    rw [Path.ancestors_of_parent?_eq_none hparent,
      play_search_of_passed files refusal hconfig hboundary, List.flatMap_singleton,
      probes_of_not_holdsConfig hconfig]
    rfl
  | up hconfig hboundary hparent _ ih =>
    rw [Path.ancestors_of_parent?_eq_some hparent,
      play_search_of_passed files refusal hconfig hboundary, ih, List.flatMap_cons,
      probes_of_not_holdsConfig hconfig]
    rfl

theorem Visits.isPrefix (h : Visits files start visited) : visited <+: start.ancestors := by
  induction h with
  | found _ | stopped _ _ | top _ _ _ =>
    obtain ⟨above, habove⟩ := Path.exists_ancestors_eq_cons _
    rw [habove]
    exact ⟨above, rfl⟩
  | up _ _ hparent _ ih =>
    rw [Path.ancestors_of_parent?_eq_some hparent]
    exact (List.prefix_cons_inj _).mpr ih

theorem isName_fileName : Path.IsName Config.fileName.bytes :=
  ⟨by decide, by decide, by decide⟩

theorem isName_boundary : Path.IsName boundary.bytes :=
  ⟨by decide, by decide, by decide⟩

theorem nodup_probes (files : FileSystem) (directory : Path) : (probes files directory).Nodup := by
  by_cases hconfig : HoldsConfig files directory
  · rw [probes_of_holdsConfig hconfig]
    exact List.nodup_singleton _
  · have hdistinct := join_boundary_ne_join_fileName directory directory
    simp [probes_of_not_holdsConfig hconfig, hdistinct.symm]

/-- What is asked for in a directory has one component more than the directory. -/
theorem length_components_of_mem_probes {directory : Path} (h : path ∈ probes files directory) :
    path.components.length = directory.components.length + 1 := by
  have hconfig := congrArg List.length (Path.components_join directory isName_fileName)
  have hboundary := congrArg List.length (Path.components_join directory isName_boundary)
  rw [List.length_append, List.length_singleton] at hconfig hboundary
  rw [probes, List.mem_cons] at h
  rcases h with rfl | hbehind
  · exact hconfig
  · split at hbehind
    · cases hbehind
    · rw [List.mem_singleton.mp hbehind]
      exact hboundary

/-- Each step up takes a component away. So the directories that are visited are distinct, and so
are the paths that are asked for in them. -/
theorem Visits.nodup (h : Visits files start visited) :
    visited.Nodup ∧ (visited.flatMap (probes files)).Nodup := by
  have hpairs := start.pairwise_ancestors.sublist h.isPrefix.sublist
  constructor
  · refine hpairs.imp fun {below above} hless heq => ?_
    rw [heq] at hless
    exact Nat.lt_irrefl _ hless
  · refine List.nodup_flatMap.mpr ⟨fun directory _ => nodup_probes files directory, ?_⟩
    refine hpairs.imp fun {below above} hless path hbelow habove => ?_
    have hlonger := length_components_of_mem_probes hbelow
    have hshorter := length_components_of_mem_probes habove
    omega

/-- A step up leaves the beginning of the spelling and takes exactly one component away. So a search
visits directories up to an end wherever it starts: at most one more than there are components, and
none after the root or the empty path. It asks for no path twice. -/
theorem findConfig_ends (files : FileSystem) (refusal : Option IoError) (start : Path) :
    (∀ path parent : Path, path.parent? = some parent →
      parent.bytes <+: path.bytes ∧ parent.bytes.length < path.bytes.length ∧
        ∃ last, path.components = parent.components ++ [last]) ∧
    ∃ visited top, Visits files start visited ∧
      ((findConfig start).play files refusal).2 =
        (visited.flatMap (probes files)).map (fun path => .looked path (files.status path)) ∧
      visited.length ≤ start.components.length + 1 ∧
      visited.Nodup ∧ (visited.flatMap (probes files)).Nodup ∧
      visited <+: start.ancestors ∧ start.ancestors.getLast? = some top ∧
      (start.isAbsolute → top.components = [.root] ∧ (top = start ∨ top = ⟨[Path.slash]⟩)) ∧
      (¬ start.isAbsolute → top = ⟨[]⟩) := by
  obtain ⟨visited, hvisits⟩ := exists_visits files start
  have hsteps := hvisits.steps_eq refusal
  obtain ⟨top, htop, hends⟩ := start.getLast?_ancestors
  obtain ⟨hdirectories, hprobes⟩ := hvisits.nodup
  refine ⟨fun path parent h => ⟨Path.parent?_isPrefix h, Path.parent?_length_lt h,
    Path.components_of_parent? h⟩, visited, top, hvisits, hsteps, ?_, hdirectories, hprobes,
    hvisits.isPrefix, htop, hends⟩
  exact hvisits.isPrefix.length_le.trans start.length_ancestors_le

end SizeGate.Discovery
