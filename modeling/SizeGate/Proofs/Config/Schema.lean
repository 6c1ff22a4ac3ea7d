import SizeGate.Proofs.Config.Document
import SizeGate.Proofs.Format
import SizeGate.Proofs.Reading
import SizeGate.Proofs.Stage

/-!
The schema of a config.

`Fits` says which settings a table gives. It knows of no order of checks and of no message. Main
statement: reading a config succeeds exactly if its text stands for a table that fits, with the
settings it fits, and no other part of the table has a say in the outcome
(`interpret_eq_ok_iff_fits`).
-/

namespace SizeGate

namespace Config

/-- A section may be left out. Otherwise it is a table, and what it holds under its one known key,
if it holds anything there, means the setting. -/
inductive SectionGives {α : Type} (key : String) (Means : Toml.Value → α → Prop) :
    Option Toml.Value → Option α → Prop where
  | absent : SectionGives key Means none none
  | table {entries : Toml.Table} {setting : Option α} :
      Option.Rel Means (entries.lookup key) setting →
      SectionGives key Means (some (.table entries)) setting

/-- Any text but the empty one names an artifact, by its very bytes. -/
inductive NamesArtifact : Toml.Value → Path → Prop where
  | text {text : String} : text ≠ "" →
      NamesArtifact (.string text) ⟨Utf8.encode text.toList⟩

inductive NamesFormat : Toml.Value → Format → Prop where
  | text {name : String} : EqUpToCase name "text" → NamesFormat (.string name) .text
  | json {name : String} : EqUpToCase name "json" → NamesFormat (.string name) .json

/-- The table keeps to the schema of version 1 and gives these settings. -/
structure Fits (table : Toml.Table) (config : Config) : Prop where
  version : table.lookup "version" = some (.integer 1)
  artifact : SectionGives "path" NamesArtifact (table.lookup "artifact") config.artifact
  output : SectionGives "format" NamesFormat (table.lookup "output") config.format

/-- Two sections are the same as far as a config goes: both left out, or both tables with the same
under `key`, or neither of them a table. -/
inductive AgreeUnder (key : String) : Option Toml.Value → Option Toml.Value → Prop where
  | absent : AgreeUnder key none none
  | tables {entries others : Toml.Table} : entries.lookup key = others.lookup key →
      AgreeUnder key (some (.table entries)) (some (.table others))
  | noTables {value other : Toml.Value} : (∀ entries, value ≠ .table entries) →
      (∀ entries, other ≠ .table entries) → AgreeUnder key (some value) (some other)

/-- Two tables differ at most in what a config does not know: in other keys, in other keys of its
sections, and in which value stands for a section that is no table. -/
structure AgreeOnSettings (table other : Toml.Table) : Prop where
  version : table.lookup "version" = other.lookup "version"
  artifact : AgreeUnder "path" (table.lookup "artifact") (other.lookup "artifact")
  output : AgreeUnder "format" (table.lookup "output") (other.lookup "output")

/-- The settings of a table, without the fields that are reported on the way. -/
theorem result_ofTable (table : Toml.Table) :
    (ofTable table).result = (do
      checkVersion (table.lookup "version")
      let path ← (artifactSection.read (table.lookup "artifact")).map Prod.fst
      let format ← (outputSection.read (table.lookup "output")).map Prod.fst
      .ok ⟨path, format⟩) := by
  rw [ofTable]
  cases checkVersion (table.lookup "version") with
  | error problem => rfl
  | ok _ =>
    cases artifactSection.read (table.lookup "artifact") with
    | error problem => rfl
    | ok artifact =>
      cases outputSection.read (table.lookup "output") with
      | error problem => rfl
      | ok output => rfl

theorem checkVersion_eq_ok_iff (version : Option Toml.Value) :
    checkVersion version = .ok () ↔ version = some (.integer 1) := by
  constructor
  · intro h
    simp only [checkVersion] at h
    split at h
    · cases h
    · split at h
      · next hversion => rw [hversion]; rfl
      · cases h
    · cases h
  · rintro rfl
    rfl

theorem artifactPath_eq_ok_iff (value : Option Toml.Value) (path : Option Path) :
    artifactPath value = .ok path ↔ Option.Rel NamesArtifact value path := by
  constructor
  · intro h
    simp only [artifactPath] at h
    split at h
    · cases h
      exact .none
    · split at h
      · cases h
      · next htext =>
        cases h
        exact .some (.text htext)
    · cases h
  · intro h
    cases h with
    | none => rfl
    | some hnames =>
      obtain ⟨htext⟩ := hnames
      rw [artifactPath, if_neg htext]
      rfl

theorem outputFormat_eq_ok_iff (value : Option Toml.Value) (format : Option Format) :
    outputFormat value = .ok format ↔ Option.Rel NamesFormat value format := by
  constructor
  · intro h
    simp only [outputFormat] at h
    split at h
    · cases h
      exact .none
    · split at h
      · next named hnamed =>
        cases h
        have hname := (Format.ofAnyCase?_eq_some_iff _ _).mp hnamed
        cases named with
        | text => exact .some (.text hname)
        | json => exact .some (.json hname)
      · cases h
    · cases h
  · intro h
    cases h with
    | none => rfl
    | some hnames =>
      cases hnames with
      | text hname => simp [outputFormat, (Format.ofAnyCase?_eq_some_iff _ .text).mpr hname]
      | json hname => simp [outputFormat, (Format.ofAnyCase?_eq_some_iff _ .json).mpr hname]

section Sections

variable {α : Type} (part : Section α)

theorem Section.read_table (entries : Toml.Table) :
    (part.read (some (.table entries))).map Prod.fst = part.setting (entries.lookup part.key) := by
  simp only [Section.read]
  cases part.setting (entries.lookup part.key) <;> rfl

theorem Section.read_of_ne_table {value : Toml.Value} (h : ∀ entries, value ≠ .table entries) :
    part.read (some value) = .error part.notTable := by
  cases value with
  | table entries => exact absurd rfl (h entries)
  | _ => rfl

theorem sectionGives_table_iff {key : String} {Means : Toml.Value → α → Prop}
    (entries : Toml.Table) (setting : Option α) :
    SectionGives key Means (some (.table entries)) setting ↔
      Option.Rel Means (entries.lookup key) setting := by
  constructor
  · rintro ⟨⟩
    assumption
  · exact .table

/-- A section gives what the value under its key means. -/
theorem Section.read_eq_ok_iff {Means : Toml.Value → α → Prop}
    (hmeans : ∀ value setting, part.setting value = .ok setting ↔ Option.Rel Means value setting)
    (value : Option Toml.Value) (setting : Option α) :
    (part.read value).map Prod.fst = .ok setting ↔
      SectionGives part.key Means value setting := by
  rcases value with _ | value
  · constructor
    · rintro ⟨⟩
      exact .absent
    · rintro ⟨⟩
      rfl
  by_cases htable : ∃ entries, value = .table entries
  · obtain ⟨entries, rfl⟩ := htable
    rw [part.read_table, hmeans, sectionGives_table_iff]
  · have hne : ∀ entries, value ≠ .table entries := fun entries heq => htable ⟨entries, heq⟩
    rw [part.read_of_ne_table hne]
    constructor
    · rintro ⟨⟩
    · rintro ⟨⟩
      exact absurd rfl (hne _)

/-- A section is refused if it is no table, and otherwise if its setting is. -/
theorem Section.read_eq_error_iff {value : Option Toml.Value} {problem : ConfigProblem} :
    part.read value = .error problem ↔
      (∃ given, value = some given ∧ (∀ entries, given ≠ .table entries) ∧
        problem = part.notTable) ∨
      ∃ entries, value = some (.table entries) ∧
        part.setting (entries.lookup part.key) = .error problem := by
  constructor
  · intro h
    simp only [Section.read] at h
    split at h
    · cases h
    · next entries => exact .inr ⟨entries, rfl, (map_eq_error_iff _ _ _).mp h⟩
    · next given hne =>
      cases h
      exact .inl ⟨given, rfl, hne, rfl⟩
  · rintro (⟨given, rfl, hne, rfl⟩ | ⟨entries, rfl, hsetting⟩)
    · exact part.read_of_ne_table hne
    · exact (map_eq_error_iff _ _ _).mpr hsetting

theorem Section.read_congr {value other : Option Toml.Value}
    (h : AgreeUnder part.key value other) :
    (part.read value).map Prod.fst = (part.read other).map Prod.fst := by
  cases h with
  | absent => rfl
  | tables heq => rw [part.read_table, part.read_table, heq]
  | noTables hvalue hother => rw [part.read_of_ne_table hvalue, part.read_of_ne_table hother]

end Sections

theorem result_ofTable_eq_ok_iff (table : Toml.Table) (config : Config) :
    (ofTable table).result = .ok config ↔ Fits table config := by
  have hartifact := artifactSection.read_eq_ok_iff artifactPath_eq_ok_iff
  have houtput := outputSection.read_eq_ok_iff outputFormat_eq_ok_iff
  simp only [result_ofTable, bind_eq_ok_iff, hartifact, houtput]
  constructor
  · rintro ⟨_, hversion, path, hpath, format, hformat, hconfig⟩
    cases hconfig
    exact ⟨(checkVersion_eq_ok_iff _).mp hversion, hpath, hformat⟩
  · intro h
    exact ⟨(), (checkVersion_eq_ok_iff _).mpr h.version, config.artifact, h.artifact,
      config.format, h.output, rfl⟩

theorem result_ofTable_congr {table other : Toml.Table} (h : AgreeOnSettings table other) :
    (ofTable table).result = (ofTable other).result := by
  rw [result_ofTable, result_ofTable, h.version, artifactSection.read_congr h.artifact,
    outputSection.read_congr h.output]

theorem result_interpret (files : FileSystem) (refusal : Option IoError) (text : String)
    (path : Path) :
    ((interpret text path).play files refusal).1 = (parse text).result.mapError (.config path) := by
  rw [play_interpret]
  cases (parse text).result <;> rfl

/-- A config is read from a text exactly if the text is a TOML document whose version is the integer
1, in which `artifact` is left out or a table whose `path` is left out or a text that is not empty,
and `output` is left out or a table whose `format` is left out or `text` or `json` in any case. The
settings are what stands there, byte for byte. Nothing else in a document, whatever it holds and
wherever it stands, makes a difference to what comes of it. -/
theorem interpret_eq_ok_iff_fits (files : FileSystem) (refusal : Option IoError) (text : String)
    (path : Path) :
    let result := fun text => ((interpret text path).play files refusal).1
    (∀ config, result text = .ok config ↔ ∃ table, Documents text table ∧ Fits table config) ∧
    ∀ other table otherTable, Documents text table → Documents other otherTable →
      AgreeOnSettings table otherTable → result text = result other := by
  simp only [result_interpret]
  refine ⟨fun config => ?_, fun other table otherTable htext hother hagree => ?_⟩
  · rw [mapError_eq_ok_iff]
    constructor
    · intro h
      by_cases hdocuments : ∃ table, Documents text table
      · obtain ⟨table, hdocuments⟩ := hdocuments
        rw [parse_of_documents hdocuments] at h
        exact ⟨table, hdocuments, (result_ofTable_eq_ok_iff table config).mp h⟩
      · exact absurd h (result_ne_ok_of_not_documents
          (fun table htable => hdocuments ⟨table, htable⟩) config)
    · rintro ⟨table, hdocuments, hfits⟩
      rw [parse_of_documents hdocuments]
      exact (result_ofTable_eq_ok_iff table config).mpr hfits
  · rw [parse_of_documents htext, parse_of_documents hother, result_ofTable_congr hagree]

/-- A section that would set the budget is one of the things that make no difference. -/
example : AgreeOnSettings [("version", .integer 1)]
    [("budget", .table [("slot_bytes", .integer 0)]), ("version", .integer 1)] :=
  ⟨rfl, .absent, .absent⟩

end Config

end SizeGate
