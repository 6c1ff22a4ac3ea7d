import SizeGate.Proofs.Config.Checks

/-!
The warnings about fields that a config does not know.

There is one list of them for the document and one for each section, and each is given only once the
checks before it have passed. Main statement: reading a config leaves behind these lists as far as
it got and nothing else, whether it succeeds or fails (`warnings_of_interpret`).
-/

namespace SizeGate

open Session (Step)

namespace Config

/-- These are the fields of a section besides its one known key, under their full names. A section
that is left out has none, and so has a value that is no section. -/
inductive SectionLists (label key : String) : Option Toml.Value → List String → Prop where
  | absent : SectionLists label key none []
  | noTable {value : Toml.Value} : (∀ entries, value ≠ .table entries) →
      SectionLists label key (some value) []
  | table {entries : Toml.Table} {keys : List String} : Lists [key] entries keys →
      SectionLists label key (some (.table entries)) (keys.map (label ++ ·))

/-- The steps that report these fields of the config at `path`. -/
def warnings (path : Path) (fields : List String) : List Step :=
  fields.map fun field => .said (.unknownField path field)

theorem sectionLists_sectionFields {table : Toml.Table} (h : (Toml.Value.table table).Distinct)
    (label key known : String) :
    SectionLists label known (table.lookup key) (sectionFields label known (table.lookup key)) := by
  cases hlookup : table.lookup key with
  | none => exact .absent
  | some value =>
    cases value with
    | table entries => exact .table (lists_unknownKeys (h.of_lookup hlookup).keys [known])
    | _ => exact .noTable (by simp)

theorem standardError_warnings (logging : Log.Logging) (time : String) (path : Path)
    (fields : List String) :
    Session.standardError logging time (warnings path fields) =
      String.join (fields.map fun field => "otabudget: warning: " ++ path.display
        ++ ": unrecognized field `" ++ field ++ "` (ignored)\n") := by
  rw [Session.standardError, warnings, List.map_map]
  rfl

/-- A text that is no document is rejected before anything is reported. -/
theorem unknown_of_not_documents {text : String} (h : ∀ table, ¬ Documents text table) :
    (parse text).unknown = [] := by
  by_cases htoml : ReadsAs text none
  · have hparse : Toml.parse? text = none := htoml
    rw [parse, hparse]
  · have hnot : ∀ reading, ¬ ReadsAs text reading := by
      rintro (_ | table)
      · exact htoml
      · exact h table
    obtain ⟨problem, hproblem⟩ := parse_of_not_readsAs hnot
    rw [hproblem]

/-- Reading a config leaves warnings behind as far as it comes: those about the document itself once
its version is known to be supported, those about `artifact` once that section has passed its
checks, and those about `output` likewise. Each list has every field once, in the order of the
bytes of the keys. Besides warnings, only what a config was read as is reported. -/
theorem warnings_of_interpret (files : FileSystem) (refusal : Option IoError) (text : String)
    (path : Path) :
    let ending := (interpret text path).play files refusal
    (∀ table, Documents text table → ∃ top artifact output,
      Lists ["version", "artifact", "output"] table top ∧
      SectionLists "artifact." "path" (table.lookup "artifact") artifact ∧
      SectionLists "output." "format" (table.lookup "output") output ∧
      (∀ config, ending.1 = .ok config → ending.2 =
        warnings path (top ++ artifact ++ output) ++ [.said (.event (.parsedConfig path config))]) ∧
      ∀ failure, ending.1 = .error failure → ∃ check problem,
        FirstFault (some table) check problem ∧ failure = .config path problem ∧
        ending.2 = warnings path (check.stage.reported top artifact)) ∧
    ((∀ table, ¬ Documents text table) → ending.2 = []) ∧
    ∀ fields logging time, Session.standardError logging time (warnings path fields) =
      String.join (fields.map fun field => "otabudget: warning: " ++ path.display
        ++ ": unrecognized field `" ++ field ++ "` (ignored)\n") := by
  refine ⟨fun table hdocuments => ?_, fun hnone => ?_, fun fields logging time =>
    standardError_warnings logging time path fields⟩
  · have hdistinct := distinct_of_documents hdocuments
    refine ⟨_, _, _, lists_unknownKeys hdistinct.keys _, sectionLists_sectionFields hdistinct _ _ _,
      sectionLists_sectionFields hdistinct _ _ _, ?_⟩
    rw [play_interpret, parse_of_documents hdocuments]
    rcases exists_first_outcome table with hall | ⟨stage, problem, hproblem, hearlier⟩
    · obtain ⟨config, hconfig⟩ := ofTable_of_outcomes hall
      rw [hconfig]
      constructor
      · rintro _ ⟨⟩
        rfl
      · rintro _ ⟨⟩
    · obtain ⟨check, rfl, hfirst⟩ := exists_firstFault_of_outcome hproblem hearlier
      rw [ofTable_of_outcome hproblem hearlier]
      constructor
      · rintro _ ⟨⟩
      · rintro _ ⟨⟩
        exact ⟨check, problem, hfirst, rfl, rfl⟩
  · rw [play_interpret, unknown_of_not_documents hnone]
    cases hresult : (parse text).result with
    | error problem => rfl
    | ok config => exact absurd hresult (result_ne_ok_of_not_documents hnone config)

end Config

end SizeGate
