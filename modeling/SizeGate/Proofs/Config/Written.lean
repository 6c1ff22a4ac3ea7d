import SizeGate.Proofs.Config.Keys
import SizeGate.Proofs.Config.Schema
import SizeGate.Proofs.Toml.Lines

/-!
Configs written for an artifact and a format.

`Writes` gives the lines of a config with both settings, each of them a basic string in any of its
spellings. Main statement: such a config is read without a warning and gives the settings that it
was written for, whatever the path holds (`interpret_of_writes`). A path that looks like a section,
a comment or the end of its string is no exception.
-/

namespace SizeGate

namespace Config

open Toml (Spelled Lays Leads IsBare assignment header quoted)

/-- The lines of a section with one key, which holds a text. -/
inductive WritesSection (name key text : String) : List (List Char) → Prop where
  | basic {spelled : List Char} : Spelled text.toList spelled →
      WritesSection name key text [header name, assignment key (quoted spelled)]

/-- The lines of a config of version 1 with an artifact and a format, in one of two orders. -/
inductive Writes (artifact format : String) : List (List Char) → Prop where
  | artifactFirst {first second : List (List Char)} :
      WritesSection "artifact" "path" artifact first →
      WritesSection "output" "format" format second →
      Writes artifact format (assignment "version" ['1'] :: first ++ second)
  | outputFirst {first second : List (List Char)} :
      WritesSection "output" "format" format first →
      WritesSection "artifact" "path" artifact second →
      Writes artifact format (assignment "version" ['1'] :: first ++ second)

section Reading

variable {artifact name key text : String} {lines : List (List Char)} {entries : Toml.Entries}
  {path : List String}

theorem bare_names : IsBare "version" ∧ IsBare "artifact" ∧ IsBare "path" ∧ IsBare "output" ∧
    IsBare "format" := by
  refine ⟨?_, ?_, ?_, ?_, ?_⟩ <;>
    exact ⟨List.cons_ne_nil _ _, List.all_eq_true.mp (by decide)⟩

theorem leads_version : Leads ⟨[], []⟩ [assignment "version" ['1']]
    ⟨[("version", .value (.integer 1))], []⟩ :=
  .cons (Toml.takes_assignment bare_names.1 Toml.gives_one rfl) .nil

theorem leads_of_writesSection (hname : IsBare name) (hkey : IsBare key) (htext : text ≠ "")
    (h : WritesSection name key text lines) (hfresh : entries.lookup name = none) :
    Leads ⟨entries, path⟩ lines
      ⟨entries ++ [(name, .table .header [(key, .value (.string text))])], [name]⟩ := by
  obtain ⟨hspelled⟩ := h
  have hne : text.toList ≠ [] := fun hnil => htext (String.toList_eq_nil_iff.mp hnil)
  have hgives := Toml.gives_quoted hspelled hne
  rw [String.ofList_toList] at hgives
  exact Toml.leads_section hname hkey hgives hfresh

theorem unknownKeys_eq_nil {known : List String} {table : Toml.Table}
    (h : ∀ entry ∈ table, entry.1 ∈ known) : unknownKeys known table = [] := by
  rw [unknownKeys, List.filter_eq_nil_iff]
  intro key hkey
  obtain ⟨entry, member, rfl⟩ := List.mem_map.mp ((Toml.Table.mem_sortedKeys_iff table key).mp hkey)
  simpa using h entry member

/-- A section with nothing in it but its setting. -/
theorem Section.read_single {α : Type} (part : Section α) {value : Option Toml.Value}
    {given : Toml.Value} {setting : α} (hvalue : value = some (.table [(part.key, given)]))
    (hgiven : part.setting (some given) = .ok (some setting)) :
    part.read value = .ok (some setting, []) := by
  have hnone : unknownKeys [part.key] [(part.key, given)] = [] := unknownKeys_eq_nil (by simp)
  rw [hvalue, Section.read, List.lookup_cons_self, hgiven, hnone]
  rfl

/-- The settings of a table with nothing in it but the two, whatever their order. -/
theorem ofTable_of_sections {table : Toml.Table} {format : Format} (hartifact : artifact ≠ "")
    (hname : EqUpToCase name format.name)
    (hkeys : ∀ entry ∈ table, entry.1 ∈ ["version", "artifact", "output"])
    (hversion : table.lookup "version" = some (.integer 1))
    (hpath : table.lookup "artifact" = some (.table [("path", .string artifact)]))
    (hformat : table.lookup "output" = some (.table [("format", .string name)])) :
    ofTable table = ⟨[], .ok ⟨some ⟨Utf8.encode artifact.toList⟩, some format⟩⟩ := by
  have hnames : NamesFormat (.string name) format := by
    cases format with
    | text => exact .text hname
    | json => exact .json hname
  have hfirst := artifactSection.read_single hpath
    ((artifactPath_eq_ok_iff _ _).mpr (.some (.text hartifact)))
  have hsecond := outputSection.read_single hformat
    ((outputFormat_eq_ok_iff _ _).mpr (.some hnames))
  have hchecked := (checkVersion_eq_ok_iff _).mpr hversion
  simp only [ofTable, hchecked, hfirst, hsecond, unknownKeys_eq_nil hkeys, List.append_nil]

theorem ne_empty_of_eqUpToCase {format : Format} (h : EqUpToCase name format.name) : name ≠ "" := by
  rintro rfl
  cases format <;> cases h

/-- A document is judged by the table that its lines lead to. -/
theorem parse_of_leads {document : List Char} {last : Toml.Reading} (hlays : Lays lines document)
    (hleads : Leads ⟨[], []⟩ lines last)
    (hplain : Toml.Value.arePlainEntries (Toml.Slot.toTable last.entries) = true) :
    parse (String.ofList document) = ofTable (Toml.Slot.toTable last.entries) := by
  rw [parse, Toml.parse?_of_lays hlays hleads]
  exact ofDocument_of_plain _ hplain

theorem parse_of_writes {format : Format} {document : List Char} (hartifact : artifact ≠ "")
    (hname : EqUpToCase name format.name) (h : Writes artifact name lines)
    (hlays : Lays lines document) : parse (String.ofList document) =
      ⟨[], .ok ⟨some ⟨Utf8.encode artifact.toList⟩, some format⟩⟩ := by
  obtain ⟨-, hartifactBare, hpathBare, houtputBare, hformatBare⟩ := bare_names
  have hnonempty := ne_empty_of_eqUpToCase hname
  cases h with
  | artifactFirst hfirst hsecond =>
    have hleads := (leads_version.append
      (leads_of_writesSection hartifactBare hpathBare hartifact hfirst rfl)).append
      (leads_of_writesSection houtputBare hformatBare hnonempty hsecond rfl)
    rw [parse_of_leads hlays hleads rfl]
    exact ofTable_of_sections hartifact hname (by simp [Toml.Slot.toTable]) rfl rfl rfl
  | outputFirst hfirst hsecond =>
    have hleads := (leads_version.append
      (leads_of_writesSection houtputBare hformatBare hnonempty hfirst rfl)).append
      (leads_of_writesSection hartifactBare hpathBare hartifact hsecond rfl)
    rw [parse_of_leads hlays hleads rfl]
    exact ofTable_of_sections hartifact hname (by simp [Toml.Slot.toTable]) rfl rfl rfl

theorem exists_lays (lines : List (List Char)) : ∃ document, Lays lines document := by
  induction lines with
  | nil => exact ⟨[], .nil⟩
  | cons line lines ih =>
    obtain ⟨document, hdocument⟩ := ih
    exact ⟨_, .line .feed hdocument⟩

end Reading

/-- Written for an artifact and a format in any case, a config is read as the two without a
warning. The path may be spelled in any way, and so with its quotes, backslashes and control
characters escaped and everything else as it is. -/
theorem interpret_of_writes (files : FileSystem) (refusal : Option IoError) (path : Path)
    (artifact : String) (hartifact : artifact ≠ "") (format : Format) (name : String)
    (hname : EqUpToCase name format.name) :
    Spelled artifact.toList (artifact.toList.flatMap Toml.escapeChar) ∧
    (∃ lines document, Writes artifact name lines ∧ Lays lines document) ∧
    ∀ lines document, Writes artifact name lines → Lays lines document →
      let config : Config := ⟨some ⟨Utf8.encode artifact.toList⟩, some format⟩
      (interpret (String.ofList document) path).play files refusal =
        (.ok config, [.said (.event (.parsedConfig path config))]) := by
  refine ⟨Toml.spelled_escape _, ?_, ?_⟩
  · have hpath : WritesSection "artifact" "path" artifact _ := .basic (Toml.spelled_escape _)
    have hformat : WritesSection "output" "format" name _ := .basic (Toml.spelled_escape _)
    obtain ⟨document, hdocument⟩ := exists_lays (assignment "version" ['1'] :: _ ++ _)
    exact ⟨_, document, .artifactFirst hpath hformat, hdocument⟩
  · intro lines document hwrites hlays
    rw [play_interpret, parse_of_writes hartifact hname hwrites hlays]
    rfl

private def noFiles : FileSystem where
  status _ := .error (.os 2)
  opening _ := .error (.os 2)
  contents _ := .error (.os 2)

/-- The path holds what would end its string, then a section and a comment. -/
theorem interpret_of_writes_awkward :
    let artifact := "\"\n[output]\nformat = 1 # \\\x00"
    let text := "version = 1\n[artifact]\n" ++
      "path = \"\\\"\\u000a[output]\\u000aformat = 1 # \\\\\\u0000\"\n" ++
      "[output]\nformat = \"JSON\""
    let config : Config := ⟨some ⟨Utf8.encode artifact.toList⟩, some .json⟩
    (interpret text (.ofString "/w")).play noFiles none =
      (.ok config, [.said (.event (.parsedConfig (.ofString "/w") config))]) := by
  intro artifact text config
  have hname : EqUpToCase "JSON" Format.json.name := by
    rw [← Format.lowerAscii_eq_lowerAscii_iff]
    decide
  obtain ⟨-, -, hread⟩ :=
    interpret_of_writes noFiles none (.ofString "/w") artifact (by decide) .json "JSON" hname
  have hpath : WritesSection "artifact" "path" artifact _ := .basic (Toml.spelled_escape _)
  have hformat : WritesSection "output" "format" "JSON" _ := .basic (Toml.spelled_escape _)
  obtain ⟨document, hlays, htext⟩ : ∃ document, Lays (assignment "version" ['1'] ::
      [header "artifact", assignment "path" (quoted (artifact.toList.flatMap Toml.escapeChar))] ++
      [header "output", assignment "format" (quoted ("JSON".toList.flatMap Toml.escapeChar))])
      document ∧ String.ofList document = text :=
    ⟨_, .line .feed (.line .feed (.line .feed (.line .feed (.last _)))), by decide +kernel⟩
  rw [← htext]
  exact hread _ document (.artifactFirst hpath hformat) hlays

end Config

end SizeGate
