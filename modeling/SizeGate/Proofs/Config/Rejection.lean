import SizeGate.Proofs.Config.Checks

/-!
What a config is rejected with.

`Words` gives the words for each check, as they follow from the text that fails it: the type that
stands in place of an integer, a version that is not supported, a format that is not known. Main
statement: a text is rejected in the words of the first check that it fails, whatever else is wrong
with it and in whichever order it stands there, and a version that is not supported keeps everything
else from being looked at (`interpret_eq_error_iff_firstFault`). A file that gives no text is
rejected in words of its own (`message_of_rejects`).
-/

namespace SizeGate

namespace Config

/-- The text is TOML, and this is what it says its version is. A table elsewhere in it may stand for
a date or a time and say something else. -/
inductive GivesVersion (text : String) : Option Toml.Value → Prop where
  | absent {written : Toml.Table} : Toml.parse? text = some written →
      written.lookup "version" = none → GivesVersion text none
  | given {written : Toml.Table} {value meant : Toml.Value} : Toml.parse? text = some written →
      written.lookup "version" = some value → value.settle? .dropped = some meant →
      GivesVersion text (some meant)

/-- A document gives the version that stands in its table. -/
theorem givesVersion_of_documents {text : String} {table : Toml.Table} (h : Documents text table) :
    GivesVersion text (table.lookup "version") := by
  obtain ⟨written, hparse, hsettle⟩ := h
  have hsurplus : surplusUnder "version" = .refused := by decide
  rcases lookup_of_settle? hsettle "version" with
    ⟨hwritten, htable⟩ | ⟨value, meant, hwritten, hmeant, htable⟩
  · rw [htable]
    exact .absent hparse hwritten
  · rw [hsurplus] at hmeant
    rw [htable]
    exact .given hparse hwritten (Toml.Value.settle?_dropped_of_refused hmeant)

/-- The name of the type of a value. -/
inductive HasTypeName : Toml.Value → String → Prop where
  | string (text : String) : HasTypeName (.string text) "string"
  | integer (value : Int) : HasTypeName (.integer value) "integer"
  | float (value : Toml.Real) : HasTypeName (.float value) "float"
  | boolean (value : Bool) : HasTypeName (.boolean value) "boolean"
  | datetime (value : Toml.Moment) : HasTypeName (.datetime value) "datetime"
  | array (items : List Toml.Value) : HasTypeName (.array items) "array"
  | table (entries : Toml.Table) : HasTypeName (.table entries) "table"

/-- The words for a check that a reading fails. A version and a name of a format are repeated as
they are given. -/
inductive Words : Option Toml.Table → Check → String → Prop where
  | notToml : Words none .toml "TOML parse error"
  | versionMissing {table : Toml.Table} :
      Words (some table) .versionGiven "missing required field: version"
  | versionNotInteger {table : Toml.Table} {value : Toml.Value} {type : String} :
      table.lookup "version" = some value → HasTypeName value type →
      Words (some table) .versionInteger ("version must be an integer, found " ++ type)
  | versionUnsupported {table : Toml.Table} {version : Int} :
      table.lookup "version" = some (.integer version) →
      Words (some table) .versionSupported
        ("unsupported config version " ++ Decimal.ofInt version
          ++ " (supported: 1)\n  Upgrade otabudget to use this config.")
  | artifactNotTable {table : Toml.Table} :
      Words (some table) .artifactTable "artifact must be a table"
  | artifactPathNotText {table : Toml.Table} :
      Words (some table) .artifactPath "artifact.path must be a non-empty string"
  | outputNotTable {table : Toml.Table} :
      Words (some table) .outputTable "output must be a table"
  | formatNotString {table : Toml.Table} :
      Words (some table) .formatString "output.format must be a string"
  | formatUnknown {table entries : Toml.Table} {name : String} :
      table.lookup "output" = some (.table entries) →
      entries.lookup "format" = some (.string name) →
      Words (some table) .formatKnown
        ("unknown output.format `" ++ name ++ "` (expected: text, json)")

theorem hasTypeName_typeName (value : Toml.Value) : HasTypeName value value.typeName := by
  cases value <;> constructor

theorem Fault.words {reading : Option Toml.Table} {check : Check} {problem : ConfigProblem}
    (h : Fault reading check problem) : Words reading check problem.message := by
  cases h with
  | notToml => exact .notToml
  | versionMissing _ => exact .versionMissing
  | versionNotInteger hlookup _ => exact .versionNotInteger hlookup (hasTypeName_typeName _)
  | versionUnsupported hlookup _ => exact .versionUnsupported hlookup
  | artifactNotTable _ _ => exact .artifactNotTable
  | artifactPathNotText _ _ _ => exact .artifactPathNotText
  | outputNotTable _ _ => exact .outputNotTable
  | formatNotString _ _ _ => exact .formatNotString
  | formatUnknown hlookup hformat _ _ => exact .formatUnknown hlookup hformat

/-- A file that cannot be read is rejected with the reason, and one that is no UTF-8 is told so. What
else is rejected is a text. -/
theorem message_of_rejects {files : FileSystem} {path : Path} {problem : ConfigProblem}
    (h : files.Rejects path problem) :
    (∃ reason, files.contents path = .error reason ∧
      problem.message = "failed to read: " ++ reason.message) ∨
    (∃ bytes, files.contents path = .ok bytes ∧
      (∀ text : String, bytes ≠ Utf8.encode text.toList) ∧
      problem.message = "failed to read: stream did not contain valid UTF-8") ∨
    ∃ text : String, files.contents path = .ok (Utf8.encode text.toList) ∧
      (parse text).result = .error problem := by
  cases h with
  | unreadable hcontents => exact .inl ⟨_, hcontents, rfl⟩
  | notUtf8 hcontents htext => exact .inr (.inl ⟨_, hcontents, htext, by decide⟩)
  | refused hcontents hresult => exact .inr (.inr ⟨_, hcontents, hresult⟩)

/-- The version alone decides which problem there is with it. -/
theorem exists_version_fault {version : Option Toml.Value} (h : version ≠ some (.integer 1)) :
    ∃ check problem, check ∈ [Check.versionGiven, .versionInteger, .versionSupported] ∧
      checkVersion version = .error problem ∧
      ∀ table : Toml.Table, table.lookup "version" = version →
        Fault (some table) check problem := by
  cases version with
  | none => exact ⟨.versionGiven, .versionMissing, by simp, rfl, fun _ => .versionMissing⟩
  | some value =>
    by_cases hinteger : ∃ version, value = .integer version
    · obtain ⟨version, rfl⟩ := hinteger
      have hne : version ≠ 1 := by
        rintro rfl
        exact h rfl
      exact ⟨.versionSupported, .versionUnsupported version, by simp, if_neg hne,
        fun _ hlookup => .versionUnsupported hlookup hne⟩
    · have hne : ∀ version, value ≠ .integer version :=
        fun version heq => hinteger ⟨version, heq⟩
      exact ⟨.versionInteger, .versionNotInteger value.typeName, by simp,
        checkVersion_of_ne_integer hne, fun _ hlookup => .versionNotInteger hlookup hne⟩

/-- The version is looked at before the rest of a text is taken for what it means. -/
theorem parse_of_givesVersion {text : String} {version : Option Toml.Value}
    {problem : ConfigProblem} (h : GivesVersion text version)
    (hproblem : checkVersion version = .error problem) : parse text = ⟨[], .error problem⟩ := by
  cases h with
  | absent hparse hlookup => simp [parse, hparse, ofDocument, readVersion, hlookup, hproblem]
  | given hparse hlookup hmeant =>
    simp [parse, hparse, ofDocument, readVersion, hlookup, hmeant, hproblem]

/-- A text that cannot be read for another reason than its version is told so. -/
theorem parse_of_not_readsAs_of_supported {text : String} (h : ∀ reading, ¬ ReadsAs text reading)
    (hsupported : ∀ version, GivesVersion text version → version = some (.integer 1)) :
    parse text = ⟨[], .error .notToml⟩ := by
  obtain ⟨written, hparse, hsettle⟩ := exists_unsettled_of_not_readsAs h
  have hversion : readVersion written = .ok () ∨ readVersion written = .error .notToml := by
    unfold readVersion
    cases hlookup : written.lookup "version" with
    | none => cases hsupported _ (.absent hparse hlookup)
    | some value =>
      cases hmeant : value.settle? .dropped with
      | none => simp [hmeant]
      | some meant =>
        cases hsupported _ (.given hparse hlookup hmeant)
        simp [hmeant, checkVersion, supportedVersion]
  rw [parse, hparse]
  rcases hversion with hversion | hversion <;> simp only [ofDocument, hversion, hsettle]

theorem play_interpret_of_error (files : FileSystem) (refusal : Option IoError) {text : String}
    (path : Path) {problem : ConfigProblem} (h : parse text = ⟨[], .error problem⟩) :
    (interpret text path).play files refusal = (.error (.config path problem), []) := by
  rw [play_interpret, h]
  rfl

/-- Whatever is wrong with a text is said about the file it is given for. -/
theorem interpret_eq_error_iff (files : FileSystem) (refusal : Option IoError) (text : String)
    (path : Path) (failure : Failure) :
    ((interpret text path).play files refusal).1 = .error failure ↔
      ∃ problem, (parse text).result = .error problem ∧ failure = .config path problem := by
  rw [result_interpret]
  cases (parse text).result with
  | error problem =>
    constructor
    · intro h
      cases h
      exact ⟨problem, rfl, rfl⟩
    · rintro ⟨_, ⟨⟩, rfl⟩
      rfl
  | ok config =>
    constructor
    · rintro ⟨⟩
    · rintro ⟨_, ⟨⟩, -⟩

/-- A config is rejected for the given file and for one reason. For a text that is read as TOML, or
as none, this is the problem of the first check that it fails, in the words of that check: other
faults, and the order in which the text gives its keys and sections, make no difference. A document
that does not give the integer 1 as its version is told so, with no word about the rest of it. A
text that cannot be said to be read as anything is rejected with no word about its fields either,
and if it does not fail over its version, in the words for what is no TOML. -/
theorem interpret_eq_error_iff_firstFault (files : FileSystem) (refusal : Option IoError)
    (text : String) (path : Path) :
    let ending := fun text => (interpret text path).play files refusal
    (∀ failure, (ending text).1 = .error failure → ∃ problem, failure = .config path problem ∧
      failure.message = "config error: " ++ path.display ++ ": " ++ problem.message) ∧
    (∀ reading, ReadsAs text reading → ∀ problem,
      (ending text).1 = .error (.config path problem) ↔
        ∃ check, FirstFault reading check problem) ∧
    (∀ reading, ReadsAs text reading → ∀ failure, (ending text).1 = .error failure →
      ∃ check problem words, FirstFault reading check problem ∧ Words reading check words ∧
        failure = .config path problem ∧
        failure.message = "config error: " ++ path.display ++ ": " ++ words) ∧
    (∀ table other otherTable, Documents text table → Documents other otherTable →
      Toml.Value.Reordered (.table table) (.table otherTable) → ending text = ending other) ∧
    (∀ table, Documents text table → GivesVersion text (table.lookup "version")) ∧
    (∀ version, GivesVersion text version → version ≠ some (.integer 1) →
      ∃ check problem, check ∈ [Check.versionGiven, .versionInteger, .versionSupported] ∧
        (∀ table, table.lookup "version" = version →
          Fault (some table) check problem ∧ Words (some table) check problem.message) ∧
        ending text = (.error (.config path problem), [])) ∧
    ((∀ reading, ¬ ReadsAs text reading) →
      ∃ problem, ending text = (.error (.config path problem), []) ∧
        ((∀ version, GivesVersion text version → version = some (.integer 1)) →
          Words none .toml problem.message)) := by
  refine ⟨fun failure h => ?_, fun reading hreading problem => ?_,
    fun reading hreading failure h => ?_, fun table other otherTable htext hother hreordered => ?_,
    fun table hdocuments => givesVersion_of_documents hdocuments,
    fun version hgives hversion => ?_, fun hreading => ?_⟩
  · obtain ⟨problem, -, rfl⟩ := (interpret_eq_error_iff _ _ _ _ _).mp h
    exact ⟨problem, rfl, rfl⟩
  · rw [interpret_eq_error_iff, ← result_parse_eq_error_iff hreading]
    constructor
    · rintro ⟨_, hresult, hproblem⟩
      cases hproblem
      exact hresult
    · exact fun hresult => ⟨problem, hresult, rfl⟩
  · obtain ⟨problem, hresult, rfl⟩ := (interpret_eq_error_iff _ _ _ _ _).mp h
    obtain ⟨check, hfirst⟩ := (result_parse_eq_error_iff hreading problem).mp hresult
    exact ⟨check, problem, _, hfirst, hfirst.fault.words, rfl, rfl⟩
  · have hdistinct := distinct_of_documents htext
    simp only [play_interpret, parse_of_documents htext, parse_of_documents hother,
      ofTable_reordered hdistinct hreordered]
  · obtain ⟨check, problem, hcheck, hproblem, hfault⟩ := exists_version_fault hversion
    exact ⟨check, problem, hcheck, fun table htable =>
      ⟨hfault table htable, (hfault table htable).words⟩,
      play_interpret_of_error files refusal path (parse_of_givesVersion hgives hproblem)⟩
  · obtain ⟨problem, hparse⟩ := parse_of_not_readsAs hreading
    refine ⟨problem, play_interpret_of_error files refusal path hparse, fun hsupported => ?_⟩
    have hnotToml := parse_of_not_readsAs_of_supported hreading hsupported
    rw [hparse] at hnotToml
    cases hnotToml
    exact Fault.notToml.words

/-- Of three faults in three places, the one of the version is reported. -/
example : (ofTable [("artifact", .integer 0), ("version", .integer 2),
    ("output", .table [("format", .integer 3)])]).result = .error (.versionUnsupported 2) := rfl

end Config

end SizeGate
