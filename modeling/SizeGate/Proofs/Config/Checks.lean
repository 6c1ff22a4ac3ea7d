import Mathlib.Order.WellFounded
import SizeGate.Proofs.Config.Keys
import SizeGate.Proofs.Config.Schema

/-!
The checks of a config and their order.

`Fault` says what is wrong with a text, check by check, and knows of no order; a text may fail many
checks at once. Main statements: a text comes to the problem of the first check that it fails,
whatever else is wrong with it (`result_parse_eq_error_iff`), and the order in which a document
gives its keys and sections does not count (`ofTable_reordered`).
-/

namespace SizeGate

namespace Config

/-- What a text is read as: a table, or nothing if it is no TOML. A text can be neither, since a
table that stands for a date or a time may say something else (`Documents`). -/
def ReadsAs (text : String) : Option Toml.Table → Prop
  | none => Toml.parse? text = none
  | some table => Documents text table

/-- What a config is checked for, in the order of the checks. -/
inductive Check where
  | toml
  | versionGiven
  | versionInteger
  | versionSupported
  | artifactTable
  | artifactPath
  | outputTable
  | formatString
  | formatKnown

/-- The part of a document that a check is about. -/
inductive Stage where
  /-- The text as a whole, and the version that it gives. -/
  | head
  | artifact
  | output
deriving DecidableEq

def Check.stage : Check → Stage
  | .toml | .versionGiven | .versionInteger | .versionSupported => .head
  | .artifactTable | .artifactPath => .artifact
  | .outputTable | .formatString | .formatKnown => .output

instance : LT Check where
  lt check later := check.ctorIdx < later.ctorIdx

instance (check later : Check) : Decidable (check < later) :=
  inferInstanceAs (Decidable (check.ctorIdx < later.ctorIdx))

instance : LT Stage where
  lt stage later := stage.ctorIdx < later.ctorIdx

instance (stage later : Stage) : Decidable (stage < later) :=
  inferInstanceAs (Decidable (stage.ctorIdx < later.ctorIdx))

/-- A check that a reading fails, and the problem that it is rejected with if that check decides. -/
inductive Fault : Option Toml.Table → Check → ConfigProblem → Prop where
  | notToml : Fault none .toml .notToml
  | versionMissing {table : Toml.Table} : table.lookup "version" = none →
      Fault (some table) .versionGiven .versionMissing
  | versionNotInteger {table : Toml.Table} {value : Toml.Value} :
      table.lookup "version" = some value → (∀ version, value ≠ .integer version) →
      Fault (some table) .versionInteger (.versionNotInteger value.typeName)
  | versionUnsupported {table : Toml.Table} {version : Int} :
      table.lookup "version" = some (.integer version) → version ≠ 1 →
      Fault (some table) .versionSupported (.versionUnsupported version)
  | artifactNotTable {table : Toml.Table} {value : Toml.Value} :
      table.lookup "artifact" = some value → (∀ entries, value ≠ .table entries) →
      Fault (some table) .artifactTable .artifactNotTable
  | artifactPathNotText {table entries : Toml.Table} {value : Toml.Value} :
      table.lookup "artifact" = some (.table entries) → entries.lookup "path" = some value →
      (∀ text, text ≠ "" → value ≠ .string text) →
      Fault (some table) .artifactPath .artifactPathNotText
  | outputNotTable {table : Toml.Table} {value : Toml.Value} :
      table.lookup "output" = some value → (∀ entries, value ≠ .table entries) →
      Fault (some table) .outputTable .outputNotTable
  | formatNotString {table entries : Toml.Table} {value : Toml.Value} :
      table.lookup "output" = some (.table entries) → entries.lookup "format" = some value →
      (∀ name, value ≠ .string name) → Fault (some table) .formatString .formatNotString
  | formatUnknown {table entries : Toml.Table} {name : String} :
      table.lookup "output" = some (.table entries) →
      entries.lookup "format" = some (.string name) → ¬ EqUpToCase name "text" →
      ¬ EqUpToCase name "json" → Fault (some table) .formatKnown (.formatUnknown name)

/-- The check fails, and it is the first that does. -/
structure FirstFault (reading : Option Toml.Table) (check : Check) (problem : ConfigProblem) :
    Prop where
  fault : Fault reading check problem
  first : ∀ earlier < check, ∀ other, ¬ Fault reading earlier other

/-- What a table comes to at a stage. -/
def Stage.outcome (table : Toml.Table) : Stage → Except ConfigProblem Unit
  | .head => checkVersion (table.lookup "version")
  | .artifact => (artifactSection.read (table.lookup "artifact")).map fun _ => ()
  | .output => (outputSection.read (table.lookup "output")).map fun _ => ()

section Order

variable {check other : Check}

theorem Check.stage_of_lt (h : check < other) :
    check.stage < other.stage ∨ check.stage = other.stage := by
  revert h
  cases check <;> cases other <;> decide

theorem Check.lt_of_stage_lt (h : check.stage < other.stage) : check < other := by
  revert h
  cases check <;> cases other <;> decide

end Order

section Stages

variable {table : Toml.Table} {problem : ConfigProblem}

theorem checkVersion_of_ne_integer {value : Toml.Value}
    (h : ∀ version, value ≠ .integer version) :
    checkVersion (some value) = .error (.versionNotInteger value.typeName) := by
  cases value with
  | integer version => exact absurd rfl (h version)
  | _ => rfl

theorem checkVersion_eq_error_iff : checkVersion (table.lookup "version") = .error problem ↔
    ∃ check : Check, check.stage = .head ∧ Fault (some table) check problem := by
  constructor
  · intro h
    simp only [checkVersion] at h
    split at h
    · next hlookup =>
      cases h
      exact ⟨.versionGiven, rfl, .versionMissing hlookup⟩
    · next version hlookup =>
      split at h
      · cases h
      · next hversion =>
        cases h
        exact ⟨.versionSupported, rfl, .versionUnsupported hlookup hversion⟩
    · next value hne hlookup =>
      cases h
      exact ⟨.versionInteger, rfl, .versionNotInteger hlookup hne⟩
  · rintro ⟨check, hstage, hfault⟩
    cases hfault with
    | versionMissing hlookup => rw [hlookup, checkVersion]
    | versionNotInteger hlookup hne => rw [hlookup, checkVersion_of_ne_integer hne]
    | versionUnsupported hlookup hne =>
      rw [hlookup]
      exact if_neg hne
    | _ => cases hstage

theorem artifactPath_eq_error_iff (value : Option Toml.Value) :
    artifactPath value = .error problem ↔ problem = .artifactPathNotText ∧
      ∃ given, value = some given ∧ ∀ text, text ≠ "" → given ≠ .string text := by
  constructor
  · intro h
    simp only [artifactPath] at h
    split at h
    · cases h
    · next text =>
      split at h
      · next hempty =>
        cases h
        exact ⟨rfl, _, rfl, by simp [hempty, eq_comm]⟩
      · cases h
    · next given hne =>
      cases h
      exact ⟨rfl, given, rfl, fun text _ => hne text⟩
  · rintro ⟨rfl, given, rfl, hne⟩
    cases given with
    | string text =>
      have hempty : text = "" := by
        by_contra htext
        exact hne text htext rfl
      exact if_pos hempty
    | _ => rfl

theorem outputFormat_eq_error_iff (value : Option Toml.Value) :
    outputFormat value = .error problem ↔
      (problem = .formatNotString ∧ ∃ given, value = some given ∧ ∀ name, given ≠ .string name) ∨
      ∃ name, problem = .formatUnknown name ∧ value = some (.string name) ∧
        ¬ EqUpToCase name "text" ∧ ¬ EqUpToCase name "json" := by
  constructor
  · intro h
    simp only [outputFormat] at h
    split at h
    · cases h
    · next name =>
      split at h
      · cases h
      · next hname =>
        cases h
        have hno := (Format.ofAnyCase?_eq_none_iff name).mp hname
        exact .inr ⟨name, rfl, rfl, hno .text, hno .json⟩
    · next given hne =>
      cases h
      exact .inl ⟨rfl, given, rfl, hne⟩
  · rintro (⟨rfl, given, rfl, hne⟩ | ⟨name, rfl, rfl, htext, hjson⟩)
    · cases given with
      | string name => exact absurd rfl (hne name)
      | _ => rfl
    · have hname : Format.ofAnyCase? name = none := by
        rw [Format.ofAnyCase?_eq_none_iff]
        rintro (_ | _)
        · exact htext
        · exact hjson
      rw [outputFormat, hname]

theorem artifactSection_eq_error_iff :
    artifactSection.read (table.lookup "artifact") = .error problem ↔
      ∃ check : Check, check.stage = .artifact ∧ Fault (some table) check problem := by
  rw [Section.read_eq_error_iff]
  constructor
  · rintro (⟨value, hlookup, hne, rfl⟩ | ⟨entries, hlookup, hsetting⟩)
    · exact ⟨.artifactTable, rfl, .artifactNotTable hlookup hne⟩
    · obtain ⟨rfl, value, hpath, hne⟩ := (artifactPath_eq_error_iff _).mp hsetting
      exact ⟨.artifactPath, rfl, .artifactPathNotText hlookup hpath hne⟩
  · rintro ⟨check, hstage, hfault⟩
    cases hfault with
    | artifactNotTable hlookup hne => exact .inl ⟨_, hlookup, hne, rfl⟩
    | artifactPathNotText hlookup hpath hne =>
      exact .inr ⟨_, hlookup, (artifactPath_eq_error_iff _).mpr ⟨rfl, _, hpath, hne⟩⟩
    | _ => cases hstage

theorem outputSection_eq_error_iff :
    outputSection.read (table.lookup "output") = .error problem ↔
      ∃ check : Check, check.stage = .output ∧ Fault (some table) check problem := by
  rw [Section.read_eq_error_iff]
  constructor
  · rintro (⟨value, hlookup, hne, rfl⟩ | ⟨entries, hlookup, hsetting⟩)
    · exact ⟨.outputTable, rfl, .outputNotTable hlookup hne⟩
    · rcases (outputFormat_eq_error_iff _).mp hsetting with
        ⟨rfl, value, hformat, hne⟩ | ⟨name, rfl, hformat, htext, hjson⟩
      · exact ⟨.formatString, rfl, .formatNotString hlookup hformat hne⟩
      · exact ⟨.formatKnown, rfl, .formatUnknown hlookup hformat htext hjson⟩
  · rintro ⟨check, hstage, hfault⟩
    cases hfault with
    | outputNotTable hlookup hne => exact .inl ⟨_, hlookup, hne, rfl⟩
    | formatNotString hlookup hformat hne =>
      exact .inr ⟨_, hlookup, (outputFormat_eq_error_iff _).mpr (.inl ⟨rfl, _, hformat, hne⟩)⟩
    | formatUnknown hlookup hformat htext hjson =>
      exact .inr ⟨_, hlookup,
        (outputFormat_eq_error_iff _).mpr (.inr ⟨_, rfl, hformat, htext, hjson⟩)⟩
    | _ => cases hstage

/-- A stage ends with a problem if a check of it fails, and with that of the check. -/
theorem outcome_eq_error_iff (stage : Stage) : stage.outcome table = .error problem ↔
    ∃ check : Check, check.stage = stage ∧ Fault (some table) check problem := by
  cases stage with
  | head => exact checkVersion_eq_error_iff
  | artifact => exact (map_eq_error_iff _ _ _).trans artifactSection_eq_error_iff
  | output => exact (map_eq_error_iff _ _ _).trans outputSection_eq_error_iff

theorem outcome_eq_ok_iff (stage : Stage) : stage.outcome table = .ok () ↔
    ∀ problem, stage.outcome table ≠ .error problem := by
  cases stage.outcome table <;> simp

/-- Each problem comes from one check only. -/
theorem Fault.check_unique {reading : Option Toml.Table} {check other : Check}
    (h : Fault reading check problem) (h' : Fault reading other problem) : check = other := by
  generalize hproblem : problem = problem' at h'
  cases h <;> cases h' <;> first | rfl | cases hproblem

/-- The stages before the first check that fails end well. -/
theorem FirstFault.outcome {check : Check} (h : FirstFault (some table) check problem) :
    check.stage.outcome table = .error problem ∧
      ∀ earlier < check.stage, earlier.outcome table = .ok () := by
  refine ⟨(outcome_eq_error_iff _).mpr ⟨check, rfl, h.fault⟩, fun earlier hearlier => ?_⟩
  rw [outcome_eq_ok_iff]
  intro other hother
  obtain ⟨failed, rfl, hfailed⟩ := (outcome_eq_error_iff _).mp hother
  exact h.first failed (Check.lt_of_stage_lt hearlier) other hfailed

/-- The checks of one stage exclude each other, as the stage has one outcome. So the check that
fails in the first stage that does not end well is the first that fails. -/
theorem exists_firstFault_of_outcome {stage : Stage} (h : stage.outcome table = .error problem)
    (hearlier : ∀ earlier < stage, earlier.outcome table = .ok ()) :
    ∃ check : Check, check.stage = stage ∧ FirstFault (some table) check problem := by
  obtain ⟨check, rfl, hfault⟩ := (outcome_eq_error_iff _).mp h
  refine ⟨check, rfl, hfault, fun failed hlt other hfailed => ?_⟩
  have hother := (outcome_eq_error_iff _).mpr ⟨failed, rfl, hfailed⟩
  rcases Check.stage_of_lt hlt with hstage | hstage
  · rw [hearlier _ hstage] at hother
    cases hother
  · rw [hstage, h] at hother
    cases hother
    rw [hfailed.check_unique hfault] at hlt
    exact absurd hlt (Nat.lt_irrefl _)

/-- One of the stages is the first to end with a problem, or none does. -/
theorem exists_first_outcome (table : Toml.Table) :
    (∀ stage : Stage, stage.outcome table = .ok ()) ∨
    ∃ (stage : Stage) (problem : ConfigProblem), stage.outcome table = .error problem ∧
      ∀ earlier < stage, earlier.outcome table = .ok () := by
  by_cases hfailed : ∃ stage : Stage, ∃ problem, stage.outcome table = .error problem
  · have horder : WellFounded fun stage later : Stage => stage < later :=
      InvImage.wf Stage.ctorIdx Nat.lt_wfRel.wf
    obtain ⟨stage, ⟨problem, hproblem⟩, hfirst⟩ :=
      horder.has_min {stage | ∃ problem, stage.outcome table = .error problem} hfailed
    refine .inr ⟨stage, problem, hproblem, fun earlier hlt => ?_⟩
    rw [outcome_eq_ok_iff]
    exact fun other hother => hfirst earlier ⟨other, hother⟩ hlt
  · refine .inl fun stage => ?_
    rw [outcome_eq_ok_iff]
    exact fun problem hproblem => hfailed ⟨stage, problem, hproblem⟩

end Stages

section Outcome

variable {table : Toml.Table} {problem : ConfigProblem}

/-- The unknown fields of a section, under their full names. -/
def sectionFields (label key : String) : Option Toml.Value → List String
  | some (.table entries) => (unknownKeys [key] entries).map (label ++ ·)
  | _ => []

/-- What has been reported when a check of the stage fails: nothing, or the unknown fields of the
document, or those and the ones of its first section. -/
def Stage.reported (top artifact : List String) : Stage → List String
  | .head => []
  | .artifact => top
  | .output => top ++ artifact

theorem Section.fields_of_read {α : Type} {part : Section α} {value : Option Toml.Value}
    {setting : Option α} {fields : List String} (h : part.read value = .ok (setting, fields)) :
    fields = sectionFields part.label part.key value := by
  simp only [Section.read] at h
  split at h
  · cases h
    rfl
  · obtain ⟨_, _, hpair⟩ := (map_eq_ok_iff _ _ _).mp h
    cases hpair
    rfl
  · cases h

/-- The first stage with a problem decides, and nothing behind it is looked at. -/
theorem ofTable_of_outcome {stage : Stage} (h : stage.outcome table = .error problem)
    (hearlier : ∀ earlier < stage, earlier.outcome table = .ok ()) :
    ofTable table = ⟨stage.reported (unknownKeys ["version", "artifact", "output"] table)
      (sectionFields "artifact." "path" (table.lookup "artifact")), .error problem⟩ := by
  cases stage with
  | head =>
    have hversion : checkVersion (table.lookup "version") = .error problem := h
    rw [ofTable, hversion]
    rfl
  | artifact =>
    have hversion : checkVersion (table.lookup "version") = .ok () := hearlier .head (by decide)
    have hartifact := (map_eq_error_iff _ _ _).mp h
    simp only [ofTable, hversion, hartifact]
    rfl
  | output =>
    have hversion : checkVersion (table.lookup "version") = .ok () := hearlier .head (by decide)
    obtain ⟨⟨path, fields⟩, hartifact, -⟩ :=
      (map_eq_ok_iff _ _ _).mp (hearlier .artifact (by decide))
    have houtput := (map_eq_error_iff _ _ _).mp h
    obtain rfl := Section.fields_of_read hartifact
    simp only [ofTable, hversion, hartifact, houtput]
    rfl

theorem ofTable_of_outcomes (h : ∀ stage : Stage, stage.outcome table = .ok ()) :
    ∃ config, ofTable table =
      ⟨unknownKeys ["version", "artifact", "output"] table
        ++ sectionFields "artifact." "path" (table.lookup "artifact")
        ++ sectionFields "output." "format" (table.lookup "output"), .ok config⟩ := by
  have hversion : checkVersion (table.lookup "version") = .ok () := h .head
  obtain ⟨⟨path, fields⟩, hartifact, -⟩ := (map_eq_ok_iff _ _ _).mp (h .artifact)
  obtain ⟨⟨format, others⟩, houtput, -⟩ := (map_eq_ok_iff _ _ _).mp (h .output)
  obtain rfl := Section.fields_of_read hartifact
  obtain rfl := Section.fields_of_read houtput
  refine ⟨⟨path, format⟩, ?_⟩
  simp only [ofTable, hversion, hartifact, houtput]
  rfl

theorem result_ofTable_eq_error_iff : (ofTable table).result = .error problem ↔
    ∃ check, FirstFault (some table) check problem := by
  constructor
  · intro h
    rcases exists_first_outcome table with hall | ⟨stage, other, hother, hearlier⟩
    · obtain ⟨config, hconfig⟩ := ofTable_of_outcomes hall
      rw [hconfig] at h
      cases h
    · rw [ofTable_of_outcome hother hearlier] at h
      cases h
      obtain ⟨check, -, hfirst⟩ := exists_firstFault_of_outcome hother hearlier
      exact ⟨check, hfirst⟩
  · rintro ⟨check, hfirst⟩
    rw [ofTable_of_outcome hfirst.outcome.1 hfirst.outcome.2]

end Outcome

section Reordering

open Toml (HasDistinctKeys)
open Toml.Value (Reordered)

/-- Where nothing within a value counts, its order does not. -/
theorem eq_of_reordered {α : Type} (f : Option Toml.Value → α)
    (harray : ∀ items others, f (some (.array items)) = f (some (.array others)))
    (htable : ∀ entries others, f (some (.table entries)) = f (some (.table others)))
    (value other : Option Toml.Value) (h : Option.Rel Reordered value other) :
    f value = f other := by
  cases h with
  | none => rfl
  | some hvalue =>
    cases hvalue with
    | same => rfl
    | array => exact harray _ _
    | table => exact htable _ _

theorem Section.read_reordered {α : Type} (part : Section α) {value other : Option Toml.Value}
    (hsetting : ∀ value other, Option.Rel Reordered value other →
      part.setting value = part.setting other)
    (h : Option.Rel Reordered value other)
    (hkeys : ∀ entries, value = some (.table entries) → HasDistinctKeys entries) :
    part.read value = part.read other := by
  cases h with
  | none => rfl
  | some hvalue =>
    cases hvalue with
    | same | array => rfl
    | table hperm hsame hvalues =>
      have hentries := Reordered.table hperm hsame hvalues
      rw [Section.read, Section.read, hsetting _ _ (hentries.lookup (hkeys _ rfl) part.key),
        unknownKeys_reordered hentries (hkeys _ rfl)]

/-- What a document comes to, the fields that are reported included, does not depend on the order
in which it gives them. -/
theorem ofTable_reordered {table other : Toml.Table}
    (hdistinct : (Toml.Value.table table).Distinct)
    (h : Reordered (.table table) (.table other)) : ofTable table = ofTable other := by
  have hlookup := h.lookup hdistinct.keys
  have hsection : ∀ key entries, table.lookup key = some (.table entries) →
      HasDistinctKeys entries :=
    fun key entries hentries => (hdistinct.of_lookup hentries).keys
  have hversion := eq_of_reordered checkVersion (fun _ _ => rfl) (fun _ _ => rfl)
  have hpath := eq_of_reordered artifactPath (fun _ _ => rfl) (fun _ _ => rfl)
  have hformat := eq_of_reordered outputFormat (fun _ _ => rfl) (fun _ _ => rfl)
  rw [ofTable, ofTable, hversion _ _ (hlookup "version"),
    artifactSection.read_reordered hpath (hlookup "artifact") (hsection "artifact"),
    outputSection.read_reordered hformat (hlookup "output") (hsection "output"),
    unknownKeys_reordered h hdistinct.keys]

end Reordering

theorem firstFault_none_iff {problem : ConfigProblem} :
    (∃ check, FirstFault none check problem) ↔ problem = .notToml := by
  constructor
  · rintro ⟨check, hfault, -⟩
    cases hfault
    rfl
  · rintro rfl
    exact ⟨.toml, .notToml, fun earlier hlt => absurd hlt (Nat.not_lt_zero _)⟩

theorem result_parse_eq_error_iff {text : String} {reading : Option Toml.Table}
    (h : ReadsAs text reading) (problem : ConfigProblem) :
    (parse text).result = .error problem ↔ ∃ check, FirstFault reading check problem := by
  cases reading with
  | none =>
    rw [firstFault_none_iff, parse, h]
    exact ⟨fun h => (Except.error.inj h).symm, fun h => h ▸ rfl⟩
  | some table =>
    rw [parse_of_documents h]
    exact result_ofTable_eq_error_iff

/-- A text that is neither no TOML nor a document holds a table that would have to stand for a date
or a time. -/
theorem exists_unsettled_of_not_readsAs {text : String} (h : ∀ reading, ¬ ReadsAs text reading) :
    ∃ written, Toml.parse? text = some written ∧ settle? written = none := by
  cases hparse : Toml.parse? text with
  | none => exact absurd hparse (h none)
  | some written =>
    refine ⟨written, rfl, ?_⟩
    rw [Option.eq_none_iff_forall_ne_some]
    exact fun table hsettle => h (some table) ⟨written, hparse, hsettle⟩

/-- Such a text is turned down at once. -/
theorem parse_of_not_readsAs {text : String} (h : ∀ reading, ¬ ReadsAs text reading) :
    ∃ problem, parse text = ⟨[], .error problem⟩ := by
  obtain ⟨written, hparse, hsettle⟩ := exists_unsettled_of_not_readsAs h
  rw [parse, hparse]
  simp only [ofDocument, hsettle]
  cases readVersion written with
  | error problem => exact ⟨problem, rfl⟩
  | ok _ => exact ⟨.notToml, rfl⟩

end Config

end SizeGate
