import SizeGate.CommandLine.Options
import SizeGate.Proofs.Reading

/-!
What a command line gives, and what the environment adds to it.

While arguments are read, those stored and those that the options hold something for are the same
(`IsRecorded`). Main statement: the options of a run are those that the arguments alone give, and
the environment's config is among them exactly if no argument names one
(`exists_flags_of_parse_eq_ok`).
-/

namespace SizeGate.CommandLine

/-- Whether the options hold something for an argument. -/
def Options.holds (options : Options) : Argument → Bool
  | .artifact => options.artifact.isSome
  | .config => options.config.isSome
  | .output => options.output.isSome
  | .color => options.color
  | .noColor => options.noColor

namespace Progress

/-- The arguments stored are those that the options hold something for. -/
def IsRecorded (progress : Progress) : Prop :=
  ∀ argument, argument ∈ progress.given ↔ progress.options.holds argument = true

variable {progress next : Progress} {argument : Argument}

private theorem holds_of_assign {options set : Options} {value : Bytes}
    (h : assign options value argument = .ok set) (other : Argument) :
    set.holds other = (decide (other = argument) || options.holds other) := by
  cases argument with
  | output =>
    simp only [assign] at h
    split at h
    · cases h
      cases other <;> rfl
    · cases h
  | artifact | config | color | noColor =>
    cases h
    cases other <;> rfl

/-- Setting an argument and noting that it was given keeps the record. -/
private theorem isRecorded_of_assign {set : Options} {value : Bytes}
    (hrecorded : progress.IsRecorded) (h : assign progress.options value argument = .ok set) :
    IsRecorded { progress with options := set, given := progress.given ++ [argument] } := by
  intro other
  simp only [List.mem_append, List.mem_singleton, holds_of_assign h other, Bool.or_eq_true,
    decide_eq_true_eq, hrecorded other, or_comm]

theorem isRecorded_of_store {value : Option Bytes} (hrecorded : progress.IsRecorded)
    (h : progress.store argument value = .ok next) : next.IsRecorded := by
  cases value with
  | none => cases h
  | some value =>
    simp only [store] at h
    split at h
    · cases h
    split at h
    · cases h
    cases hassign : assign progress.options value argument with
    | error problem => rw [hassign] at h; cases h
    | ok set =>
      rw [hassign] at h
      cases h
      exact isRecorded_of_assign hrecorded hassign

theorem isRecorded_of_settle (hrecorded : progress.IsRecorded)
    (h : progress.settle = .ok next) : next.IsRecorded := by
  simp only [settle] at h
  split at h
  · cases h
    exact hrecorded
  · have hcleared : IsRecorded { progress with waiting := none } := hrecorded
    exact isRecorded_of_store hcleared h

theorem isRecorded_of_await {value : Option Bytes} (hrecorded : progress.IsRecorded)
    (h : progress.await argument value = .ok next) : next.IsRecorded := by
  simp only [await] at h
  split at h
  · next settled hsettle =>
    have hsettled : settled.IsRecorded := isRecorded_of_settle hrecorded hsettle
    cases h
    exact hsettled
  · cases h

theorem isRecorded_of_attach {value : Bytes} (hrecorded : progress.IsRecorded)
    (h : progress.attach argument value = .ok next) : next.IsRecorded := by
  simp only [attach] at h
  split at h
  · next settled hsettle =>
    cases hstore : settled.store argument (some value) with
    | error problem => rw [hstore] at h; cases h
    | ok stored =>
      rw [hstore] at h
      cases h
      exact isRecorded_of_store (isRecorded_of_settle hrecorded hsettle) hstore
  · cases h

theorem isRecorded_of_flag (hrecorded : progress.IsRecorded)
    (h : progress.flag argument = .ok next) : next.IsRecorded := by
  simp only [flag] at h
  split at h
  · next settled hsettle =>
    split at h
    · cases h
    cases hassign : assign settled.options [] argument with
    | error problem => rw [hassign] at h; cases h
    | ok set =>
      rw [hassign] at h
      cases h
      exact isRecorded_of_assign (isRecorded_of_settle hrecorded hsettle) hassign
  · cases h

theorem halt_ne_ok (progress next : Progress) (reason : Stop) :
    progress.halt reason ≠ .ok next := by
  intro h
  simp only [halt] at h
  split at h <;> cases h

theorem isRecorded_of_long {name : Bytes} (hrecorded : progress.IsRecorded)
    (h : progress.long name = .ok next) : next.IsRecorded := by
  simp only [long] at h
  split at h
  · cases h
  · exact isRecorded_of_await hrecorded h
  · exact isRecorded_of_attach hrecorded h
  · exact isRecorded_of_flag hrecorded h
  · exact absurd h (halt_ne_ok _ _ _)
  · cases h

theorem isRecorded_of_lettered {rest : Bytes} (hrecorded : progress.IsRecorded)
    (h : progress.lettered argument rest = .ok next) : next.IsRecorded := by
  cases rest with
  | nil => exact isRecorded_of_await hrecorded h
  | cons first value => exact isRecorded_of_attach hrecorded h

theorem isRecorded_of_short {cluster : Bytes} (hrecorded : progress.IsRecorded)
    (h : progress.short cluster = .ok next) : next.IsRecorded := by
  simp only [short] at h
  split at h
  · exact absurd h (halt_ne_ok _ _ _)
  · exact absurd h (halt_ne_ok _ _ _)
  · exact isRecorded_of_lettered hrecorded h
  · exact isRecorded_of_lettered hrecorded h
  · cases h
  · cases h

theorem isRecorded_of_positional {value : Bytes} (hrecorded : progress.IsRecorded)
    (h : progress.positional value = .ok next) : next.IsRecorded := by
  simp only [positional] at h
  split at h
  · cases h
  · exact isRecorded_of_await hrecorded h

theorem isRecorded_of_plain {value : Bytes} (hrecorded : progress.IsRecorded)
    (h : progress.plain value = .ok next) : next.IsRecorded := by
  simp only [plain] at h
  split at h
  · cases h
    exact hrecorded
  · exact isRecorded_of_positional hrecorded h

/-- One argument: a value that is let wait or that the reading ends with changes no record. -/
theorem isRecorded_of_take {value : Bytes} (hrecorded : progress.IsRecorded)
    (h : progress.take value = .ok next) : next.IsRecorded := by
  simp only [take] at h
  split at h
  · exact isRecorded_of_positional hrecorded h
  split at h
  · split at h
    · exact isRecorded_of_plain hrecorded h
    split at h
    · exact isRecorded_of_short hrecorded h
    split at h
    · cases h
      exact hrecorded
    · exact isRecorded_of_long hrecorded h
  · exact isRecorded_of_plain hrecorded h

theorem isRecorded_of_foldlM {args : List Bytes} (hrecorded : progress.IsRecorded)
    (h : args.foldlM take progress = .ok next) : next.IsRecorded := by
  induction args generalizing progress with
  | nil =>
    cases h
    exact hrecorded
  | cons value args ih =>
    rw [List.foldlM_cons] at h
    cases htake : progress.take value with
    | error stop => rw [htake] at h; cases h
    | ok taken =>
      rw [htake] at h
      exact ih (isRecorded_of_take hrecorded htake) h

theorem isRecorded_start : IsRecorded {} := by
  intro argument
  cases argument <;> simp [Options.holds]

theorem eq_options_of_checked {options : Options} (h : progress.checked = .ok options) :
    options = progress.options := by
  simp only [checked] at h
  split at h <;> cases h
  rfl

/-- The environment's config has no part in which flags exclude each other. -/
theorem exists_flags_of_store_config {value : Bytes} {options : Options}
    (hrecorded : progress.IsRecorded) (hgiven : Argument.config ∉ progress.given)
    (hstore : progress.store .config (some value) = .ok next)
    (hchecked : next.checked = .ok options) :
    ∃ flags, progress.checked = .ok flags ∧ flags.config = none ∧
      options = { flags with config := some ⟨value⟩ } := by
  have hnone : progress.options.config = none := by
    simpa [hrecorded .config, Options.holds] using hgiven
  simp only [store, if_neg hgiven] at hstore
  split at hstore
  · cases hstore
  cases hstore
  have hflags : ((progress.given ++ [Argument.config]).filter fun argument =>
      argument = .color ∨ argument = .noColor) = progress.given.filter fun argument =>
      argument = .color ∨ argument = .noColor := by simp
  simp only [checked, hflags] at hchecked
  simp only [checked]
  split at hchecked
  · cases hchecked
  · cases hchecked
    exact ⟨_, rfl, hnone, rfl⟩

end Progress

/-- Reading succeeds exactly if each of its four stages does. -/
theorem parse_eq_ok_iff (env : Environment) (args : List Bytes) (options : Options) :
    parse env args = .ok options ↔ ∃ read settled stored,
      args.foldlM Progress.take {} = .ok read ∧ read.settle = .ok settled ∧
        settled.fallBack env.config = .ok stored ∧ stored.checked = .ok options := by
  simp only [parse, bind_eq_ok_iff, mapError_eq_ok_iff]
  constructor
  · rintro ⟨read, hread, settled, hsettle, stored, hstore, hchecked⟩
    exact ⟨read, settled, stored, hread, hsettle, hstore, hchecked⟩
  · rintro ⟨read, settled, stored, hread, hsettle, hstore, hchecked⟩
    exact ⟨read, hread, settled, hsettle, stored, hstore, hchecked⟩

/-- Options are those that the arguments give without the environment, except that the environment's
config is taken where the arguments name none. -/
theorem exists_flags_of_parse_eq_ok {env : Environment} {args : List Bytes} {options : Options}
    (h : parse env args = .ok options) :
    ∃ flags, parse { env with config := none } args = .ok flags ∧
      options = { flags with config := flags.config <|> env.config.map Path.mk } := by
  obtain ⟨read, settled, stored, hread, hsettle, hstore, hchecked⟩ :=
    (parse_eq_ok_iff env args options).mp h
  have hrecorded : settled.IsRecorded := Progress.isRecorded_of_settle
    (Progress.isRecorded_of_foldlM Progress.isRecorded_start hread) hsettle
  have halone : ∀ flags, settled.checked = .ok flags →
      parse { env with config := none } args = .ok flags := fun flags hflags =>
    (parse_eq_ok_iff _ args flags).mpr ⟨read, settled, settled, hread, hsettle, rfl, hflags⟩
  cases hconfig : env.config with
  | none =>
    rw [hconfig] at hstore
    cases hstore
    exact ⟨options, halone options hchecked, by simp⟩
  | some value =>
    simp only [hconfig, Progress.fallBack] at hstore
    split at hstore
    · next hgiven =>
      cases hstore
      have hholds := (hrecorded .config).mp hgiven
      rw [← Progress.eq_options_of_checked hchecked] at hholds
      obtain ⟨path, hpath⟩ := Option.isSome_iff_exists.mp hholds
      have hkept : (options.config <|> (some value).map Path.mk) = options.config := by
        rw [hpath]
        rfl
      exact ⟨options, halone options hchecked, by rw [hkept]⟩
    · next hgiven =>
      obtain ⟨flags, hflags, hnone, rfl⟩ :=
        Progress.exists_flags_of_store_config hrecorded hgiven hstore hchecked
      exact ⟨flags, halone flags hflags, by simp [hnone]⟩

end SizeGate.CommandLine
