import SizeGate.Proofs.Discovery
import SizeGate.Proofs.Text.Utf8
import SizeGate.Run

/-!
What the stages of a run end with, and by which steps.

Reading a config and measuring an artifact depend on a few answers of the file system. `Reads`,
`Rejects`, `Weighs` and `Denies` say which, without the program, and each stage is shown to end as
they say. Main statements: `load_of_reads`, `load_of_rejects`, `measure_of_weighs` and
`measure_of_denies`, of which always one applies (`reads_or_rejects`, `weighs_or_denies`).
-/

namespace SizeGate

open Session (Step)

namespace FileSystem

/-- The file at `path` is the UTF-8 of a config with these settings. -/
def Reads (files : FileSystem) (path : Path) (config : Config) : Prop :=
  ∃ text : String, files.contents path = .ok (Utf8.encode text.toList) ∧
    (Config.parse text).result = .ok config

/-- The file at `path` gives no config, for the stated reason. -/
inductive Rejects (files : FileSystem) (path : Path) : ConfigProblem → Prop where
  | unreadable {reason : IoError} : files.contents path = .error reason →
      Rejects files path (.unreadable reason)
  | notUtf8 {bytes : Bytes} : files.contents path = .ok bytes →
      (∀ text : String, bytes ≠ Utf8.encode text.toList) →
      Rejects files path (.unreadable .notUtf8)
  | refused {text : String} {problem : ConfigProblem} :
      files.contents path = .ok (Utf8.encode text.toList) →
      (Config.parse text).result = .error problem → Rejects files path problem

/-- At `path` is a regular file of `size` bytes that can be opened. -/
def Weighs (files : FileSystem) (path : Path) (size : UInt64) : Prop :=
  files.status path = .ok ⟨.regular, size⟩ ∧ files.opening path = .ok ()

/-- At `path` is nothing that can be measured, for the stated reason. -/
inductive Denies (files : FileSystem) (path : Path) : IoError → Prop where
  | missing {reason : IoError} : files.status path = .error reason → Denies files path reason
  | notRegular {found : FileStatus} : files.status path = .ok found → found.kind ≠ .regular →
      Denies files path .notRegular
  | closed {size : UInt64} {reason : IoError} : files.status path = .ok ⟨.regular, size⟩ →
      files.opening path = .error reason → Denies files path reason

theorem reads_or_rejects (files : FileSystem) (path : Path) :
    (∃ config, files.Reads path config) ∨ ∃ problem, files.Rejects path problem := by
  cases hcontents : files.contents path with
  | error reason => exact .inr ⟨_, .unreadable hcontents⟩
  | ok bytes =>
    by_cases htext : ∃ text : String, bytes = Utf8.encode text.toList
    · obtain ⟨text, rfl⟩ := htext
      cases hresult : (Config.parse text).result with
      | error problem => exact .inr ⟨problem, .refused hcontents hresult⟩
      | ok config => exact .inl ⟨config, text, hcontents, hresult⟩
    · exact .inr ⟨_, .notUtf8 hcontents fun text heq => htext ⟨text, heq⟩⟩

theorem weighs_or_denies (files : FileSystem) (path : Path) :
    (∃ size, files.Weighs path size) ∨ ∃ reason, files.Denies path reason := by
  cases hstatus : files.status path with
  | error reason => exact .inr ⟨reason, .missing hstatus⟩
  | ok found =>
    obtain ⟨kind, size⟩ := found
    by_cases hkind : kind = .regular
    · subst hkind
      cases hopening : files.opening path with
      | error reason => exact .inr ⟨reason, .closed hstatus hopening⟩
      | ok _ => exact .inl ⟨size, hstatus, hopening⟩
    · exact .inr ⟨_, .notRegular hstatus hkind⟩

end FileSystem

variable {files : FileSystem} {path : Path} (refusal : Option IoError)

namespace Config

theorem play_interpret (text : String) (path : Path) :
    let warnings := (parse text).unknown.map fun field => Step.said (.unknownField path field)
    (interpret text path).play files refusal =
      match (parse text).result with
      | .error problem => (.error (.config path problem), warnings)
      | .ok config => (.ok config, warnings ++ [.said (.event (.parsedConfig path config))]) := by
  simp only [interpret, Session.play_bind, Session.play_notices, List.map_map]
  cases (parse text).result with
  | error problem => simp [Function.comp_def]
  | ok config => simp [Session.play_bind, Session.log, Function.comp_def]

theorem load_of_text {text : String}
    (h : files.contents path = .ok (Utf8.encode text.toList)) :
    (load path).play files refusal =
      (((interpret text path).play files refusal).1,
        .read path :: ((interpret text path).play files refusal).2) := by
  have hdecode : Utf8.decode? (Utf8.encode text.toList) = some text :=
    (Utf8.decode?_eq_some_iff _ _).mpr rfl
  simp only [load, Session.play, h, hdecode]

theorem load_of_reads {config : Config} (h : files.Reads path config) :
    ((load path).play files refusal).1 = .ok config := by
  obtain ⟨text, hcontents, hresult⟩ := h
  rw [load_of_text refusal hcontents, play_interpret, hresult]

theorem load_of_rejects {problem : ConfigProblem} (h : files.Rejects path problem) :
    ((load path).play files refusal).1 = .error (.config path problem) := by
  cases h with
  | unreadable hcontents => simp [load, Session.play, hcontents]
  | @notUtf8 bytes hcontents htext =>
    have hdecode : Utf8.decode? bytes = none := by
      rw [Option.eq_none_iff_forall_ne_some]
      exact fun text heq => htext text ((Utf8.decode?_eq_some_iff _ _).mp heq)
    simp [load, Session.play, hcontents, hdecode]
  | refused hcontents hresult => rw [load_of_text refusal hcontents, play_interpret, hresult]

end Config

/-- A step by which a run with the given config comes to its settings. -/
inductive IsPreparing (files : FileSystem) (found : Option Path) : Step → Prop where
  | looked (path : Path) : IsPreparing files found (.looked path (files.status path))
  | noConfig : found = none → IsPreparing files found (.said (.event .noConfig))
  | loading {path : Path} : found = some path →
      IsPreparing files found (.said (.event (.loadingConfig path)))
  | read {path : Path} : found = some path → IsPreparing files found (.read path)
  | unknownField {path : Path} {text field : String} : found = some path →
      files.contents path = .ok (Utf8.encode text.toList) → field ∈ (Config.parse text).unknown →
      IsPreparing files found (.said (.unknownField path field))
  | parsed {path : Path} {config : Config} : found = some path →
      IsPreparing files found (.said (.event (.parsedConfig path config)))

theorem isPreparing_of_mem_interpret {text : String} {step : Step}
    (hcontents : files.contents path = .ok (Utf8.encode text.toList))
    (h : step ∈ ((Config.interpret text path).play files refusal).2) :
    IsPreparing files (some path) step := by
  have hwarning : step ∈ (Config.parse text).unknown.map
      (fun field => Step.said (.unknownField path field)) → IsPreparing files (some path) step := by
    intro member
    obtain ⟨field, hfield, rfl⟩ := List.mem_map.mp member
    exact .unknownField rfl hcontents hfield
  rw [Config.play_interpret] at h
  cases hresult : (Config.parse text).result with
  | error problem =>
    rw [hresult] at h
    exact hwarning h
  | ok config =>
    rw [hresult] at h
    rcases List.mem_append.mp h with hfield | hparsed
    · exact hwarning hfield
    · rw [List.mem_singleton.mp hparsed]
      exact .parsed rfl

theorem isPreparing_of_mem_load {step : Step}
    (h : step ∈ ((Config.load path).play files refusal).2) :
    IsPreparing files (some path) step := by
  cases hcontents : files.contents path with
  | error reason =>
    simp only [Config.load, Session.play, hcontents, Session.play_pure, List.mem_singleton] at h
    exact h ▸ .read rfl
  | ok bytes =>
    cases hdecode : Utf8.decode? bytes with
    | none =>
      simp only [Config.load, Session.play, hcontents, hdecode, Session.play_pure,
        List.mem_singleton] at h
      exact h ▸ .read rfl
    | some text =>
      rw [(Utf8.decode?_eq_some_iff _ _).mp hdecode] at hcontents
      rw [Config.load_of_text refusal hcontents] at h
      rcases List.mem_cons.mp h with rfl | hinterpret
      · exact .read rfl
      · exact isPreparing_of_mem_interpret refusal hcontents hinterpret

theorem isPreparing_of_mem_settings (found : Option Path) {step : Step}
    (h : step ∈ ((Run.settings found).play files refusal).2) : IsPreparing files found step := by
  cases found with
  | none =>
    simp only [Run.settings, Session.log, Session.play_bind, Session.play_notice,
      Session.play_pure, List.append_nil, List.mem_singleton] at h
    exact h ▸ .noConfig rfl
  | some path =>
    simp only [Run.settings, Session.log, Session.play_bind, Session.play_notice] at h
    rcases List.mem_append.mp h with hloading | hload
    · rw [List.mem_singleton.mp hloading]
      exact .loading rfl
    · exact isPreparing_of_mem_load refusal hload

theorem settings_some (path : Path) :
    ((Run.settings (some path)).play files refusal).1 =
      ((Config.load path).play files refusal).1 := by
  simp [Run.settings, Session.log, Session.play_bind]

/-- A step by which a file is measured once it has been looked at. -/
inductive IsMeasuring (files : FileSystem) (path : Path) : Step → Prop where
  | opened : FileSystem.isRegular (files.status path) = true →
      IsMeasuring files path (.opened path)
  | measured (size : UInt64) : IsMeasuring files path (.said (.event (.measured path size)))

namespace Artifact

theorem measure_of_weighs {size : UInt64} (h : files.Weighs path size) :
    (measure path).play files refusal = (.ok size,
      [.looked path (files.status path), .opened path, .said (.event (.measured path size))]) := by
  obtain ⟨hstatus, hopening⟩ := h
  simp [measure, Session.play, hstatus, hopening, Session.log, Session.play_bind]

/-- A file is opened only once it is known to be a regular one. -/
theorem measure_of_denies {reason : IoError} (h : files.Denies path reason) :
    ∃ steps, (measure path).play files refusal =
        (.error (.artifact path reason), .looked path (files.status path) :: steps) ∧
      ∀ step ∈ steps, IsMeasuring files path step := by
  cases h with
  | missing hstatus => exact ⟨[], by simp [measure, Session.play, hstatus], by simp⟩
  | notRegular hstatus hkind =>
    exact ⟨[], by simp [measure, Session.play, hstatus, hkind], by simp⟩
  | closed hstatus hopening =>
    have hregular : FileSystem.isRegular (files.status path) = true := by
      simp [FileSystem.isRegular, hstatus]
    refine ⟨[.opened path], by simp [measure, Session.play, hstatus, hopening], ?_⟩
    intro step member
    rw [List.mem_singleton.mp member]
    exact .opened hregular

end Artifact

namespace Run

theorem play_fail (failure : Failure) :
    (fail failure).play files refusal =
      (failure.exitCode, [.said (.failure failure.message)]) := by
  simp [fail, Session.play_bind]

theorem play_conclude (text : String) (code : ExitCode) :
    (conclude text code).play files refusal =
      match refusal with
      | none => (code, [.wrote text])
      | some reason => (.internal, [.refused text, .said (.failure reason.message)]) := by
  cases refusal with
  | none => rfl
  | some reason => simp [conclude, Session.play, Session.play_bind]

end Run

end SizeGate
