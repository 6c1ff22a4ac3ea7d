import SizeGate.IoError
import SizeGate.Path
import SizeGate.Report
import SizeGate.Toml.Document
import SizeGate.Toml.MomentTable

/-!
The config file.

A config is a TOML document of version 1 with two optional sections: `artifact.path` names the
binary to check and `output.format` the format of the report. The checks come in a fixed order,
whatever the order of the document, and the first that fails decides. A key that is not known is
reported and otherwise ignored. Nothing in a config can change the budget.

A document is gone through twice, the first time for its version alone. So a mistake there is
reported rather than a table elsewhere that should stand for a date or a time and does not.
-/

namespace SizeGate

structure Config where
  artifact : Option Path := none
  format : Option Format := none
deriving DecidableEq

inductive ConfigProblem where
  /-- An explicitly named file is missing or not a regular file. -/
  | fileMissing
  | unreadable (reason : IoError)
  /-- The text is no TOML. Where it goes wrong, and over what, is not kept. -/
  | notToml
  | versionMissing
  | versionNotInteger (typeName : String)
  | versionUnsupported (version : Int)
  | artifactNotTable
  | artifactPathNotText
  | outputNotTable
  | formatNotString
  | formatUnknown (name : String)
  /-- A problem that a caller states in words. -/
  | stated (problem : String)
deriving DecidableEq

namespace ConfigProblem

/-- What is said about a problem. Of a text that is no TOML these are only the opening words, without
the place of the mistake, the line that it stands in, and what was expected there. -/
def message : ConfigProblem → String
  | .fileMissing => "config file not found"
  | .unreadable reason => "failed to read: " ++ reason.message
  | .notToml => "TOML parse error"
  | .versionMissing => "missing required field: version"
  | .versionNotInteger typeName => "version must be an integer, found " ++ typeName
  | .versionUnsupported version =>
    "unsupported config version " ++ Decimal.ofInt version
      ++ " (supported: 1)\n  Upgrade otabudget to use this config."
  | .artifactNotTable => "artifact must be a table"
  | .artifactPathNotText => "artifact.path must be a non-empty string"
  | .outputNotTable => "output must be a table"
  | .formatNotString => "output.format must be a string"
  | .formatUnknown name => "unknown output.format `" ++ name ++ "` (expected: text, json)"
  | .stated problem => problem

end ConfigProblem

namespace Config

/-- The name that config files are discovered by. -/
def fileName : Path :=
  .ofString "otabudget.toml"

def supportedVersion : Int := 1

/-- What came of reading a config: the unknown fields found on the way, in the order in which they
are reported, and the settings or the first problem. -/
structure Outcome where
  unknown : List String
  result : Except ConfigProblem Config

/-- The keys of a table other than the known ones, in ascending order. -/
def unknownKeys (known : List String) (table : Toml.Table) : List String :=
  table.sortedKeys.filter fun key => key ∉ known

def checkVersion : Option Toml.Value → Except ConfigProblem Unit
  | none => .error .versionMissing
  | some (.integer version) =>
    if version = supportedVersion then .ok () else .error (.versionUnsupported version)
  | some other => .error (.versionNotInteger other.typeName)

/-- A section of a config: how the full names of its fields begin, the one key that it knows, how
the setting under that key is read, and what is wrong with a section that is no table. -/
structure Section (α : Type) where
  label : String
  key : String
  setting : Option Toml.Value → Except ConfigProblem (Option α)
  notTable : ConfigProblem

/-- Reads a section that may be left out: its setting, and the full names of its unknown fields. -/
def Section.read {α : Type} (part : Section α) :
    Option Toml.Value → Except ConfigProblem (Option α × List String)
  | none => .ok (none, [])
  | some (.table entries) =>
    (part.setting (entries.lookup part.key)).map fun setting =>
      (setting, (unknownKeys [part.key] entries).map (part.label ++ ·))
  | some _ => .error part.notTable

def artifactPath : Option Toml.Value → Except ConfigProblem (Option Path)
  | none => .ok none
  | some (.string text) =>
    if text = "" then .error .artifactPathNotText else .ok (some (.ofString text))
  | some _ => .error .artifactPathNotText

def artifactSection : Section Path where
  label := "artifact."
  key := "path"
  setting := artifactPath
  notTable := .artifactNotTable

def outputFormat : Option Toml.Value → Except ConfigProblem (Option Format)
  | none => .ok none
  | some (.string name) =>
    match Format.ofAnyCase? name with
    | some format => .ok (some format)
    | none => .error (.formatUnknown name)
  | some _ => .error .formatNotString

def outputSection : Section Format where
  label := "output."
  key := "format"
  setting := outputFormat
  notTable := .outputNotTable

/-- Reads a config from the table of its document as it is meant. -/
def ofTable (table : Toml.Table) : Outcome :=
  match checkVersion (table.lookup "version") with
  | .error problem => ⟨[], .error problem⟩
  | .ok () =>
    let top := unknownKeys ["version", "artifact", "output"] table
    match artifactSection.read (table.lookup "artifact") with
    | .error problem => ⟨top, .error problem⟩
    | .ok (path, artifactFields) =>
      match outputSection.read (table.lookup "output") with
      | .error problem => ⟨top ++ artifactFields, .error problem⟩
      | .ok (format, outputFields) =>
        ⟨top ++ artifactFields ++ outputFields, .ok ⟨path, format⟩⟩

/-- The version as it is meant, or a problem with it. -/
def readVersion (table : Toml.Table) : Except ConfigProblem Unit :=
  match (table.lookup "version").map (Toml.Value.settle? .dropped) with
  | none => checkVersion none
  | some none => .error .notToml
  | some (some version) => checkVersion (some version)

/-- What a table that stands for a moment may hold besides, under a key of the document: in the
sections anything, elsewhere nothing. -/
def surplusUnder (key : String) : Toml.Surplus :=
  if key = "artifact" ∨ key = "output" then .dropped else .refused

def settle? (table : Toml.Table) : Option Toml.Table :=
  table.mapM fun entry => (entry.2.settle? (surplusUnder entry.1)).map fun value => (entry.1, value)

/-- Reads a config from the table of its document as it is written. -/
def ofDocument (table : Toml.Table) : Outcome :=
  match readVersion table with
  | .error problem => ⟨[], .error problem⟩
  | .ok () =>
    match settle? table with
    | none => ⟨[], .error .notToml⟩
    | some settled => ofTable settled

theorem settle?_of_plain (table : Toml.Table) (h : Toml.Value.arePlainEntries table = true) :
    settle? table = some table := by
  induction table with
  | nil => rfl
  | cons entry rest ih =>
    simp only [Toml.Value.arePlainEntries, Bool.and_eq_true] at h
    have hrest := ih h.2
    simp only [settle?] at hrest
    simp only [settle?, List.mapM_cons, hrest, Toml.Value.settle?_of_plain _ entry.2 h.1]
    rfl

theorem readVersion_of_plain (table : Toml.Table)
    (h : Toml.Value.arePlainEntries table = true) :
    readVersion table = checkVersion (table.lookup "version") := by
  unfold readVersion
  cases hversion : table.lookup "version" with
  | none => rfl
  | some version =>
    rw [Option.map_some, Toml.Value.settle?_of_plain .dropped version
      (Toml.Value.isPlain_of_lookup h hversion)]

theorem ofDocument_of_plain (table : Toml.Table)
    (h : Toml.Value.arePlainEntries table = true) : ofDocument table = ofTable table := by
  rw [ofDocument, readVersion_of_plain table h, settle?_of_plain table h]
  cases hversion : checkVersion (table.lookup "version") with
  | error problem => simp only [ofTable, hversion]
  | ok _ => rfl

def parse (text : String) : Outcome :=
  match Toml.parse? text with
  | none => ⟨[], .error .notToml⟩
  | some table => ofDocument table

end Config

end SizeGate
