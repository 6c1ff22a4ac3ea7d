import SizeGate.Proofs.CommandLine.Given

/-!
What a command line is accepted for, argument by argument.

A value in an argument of its own is stored only when something else comes, so what is read lags
behind the arguments. `Accepts` looks at the end of the reading, and there the lag is gone: storing
a value late comes to the same as storing it at once (`accepts_iff_settle`). Main statements: one
for each form an argument can have, which says what the rest is then accepted from
(`accepts_artifact_iff`, `accepts_expecting_iff`, `accepts_attach_iff`, `accepts_escape_iff`). Which
mistake is reported is no matter here.
-/

namespace SizeGate.CommandLine.Progress

/-- From `progress` on, all arguments are taken, and everything stored ends as `final`. -/
def Accepts (progress : Progress) (args : List Bytes) (final : Progress) : Prop :=
  ∃ read, args.foldlM take progress = .ok read ∧ read.settle = .ok final

/-- Nothing is still to be stored. -/
def IsSettled (progress : Progress) : Prop :=
  progress.waiting = none

/-- No option is still without its value. -/
def IsProvided (progress : Progress) : Prop :=
  ∀ argument, progress.waiting ≠ some (argument, none)

variable {progress next final settled : Progress} {argument : Argument} {value : Bytes}
  {args : List Bytes}

theorem accepts_nil_iff : progress.Accepts [] final ↔ progress.settle = .ok final := by
  constructor
  · rintro ⟨read, hread, hsettle⟩
    cases hread
    exact hsettle
  · exact fun hsettle => ⟨progress, rfl, hsettle⟩

theorem accepts_cons_iff : progress.Accepts (value :: args) final ↔
    ∃ next, progress.take value = .ok next ∧ next.Accepts args final := by
  simp only [Accepts, List.foldlM_cons, bind_eq_ok_iff]
  constructor
  · rintro ⟨read, ⟨next, htake, hread⟩, hsettle⟩
    exact ⟨next, htake, read, hread, hsettle⟩
  · rintro ⟨next, htake, read, hread, hsettle⟩
    exact ⟨read, ⟨next, htake, hread⟩, hsettle⟩

theorem IsSettled.settle_eq (h : progress.IsSettled) : progress.settle = .ok progress := by
  rw [IsSettled] at h
  simp only [settle, h]

theorem IsSettled.isProvided (h : progress.IsSettled) : progress.IsProvided := by
  intro argument hwaiting
  rw [IsSettled, hwaiting] at h
  cases h

theorem store_some_eq_ok_iff : progress.store argument (some value) = .ok next ↔
    argument ∉ progress.given ∧ value ≠ [] ∧ ∃ options,
      assign progress.options value argument = .ok options ∧
      { progress with options, given := progress.given ++ [argument] } = next := by
  simp only [store]
  split
  · next hgiven => simp [hgiven]
  split
  · next hempty => simp [hempty]
  · next hgiven hempty => simp [hgiven, hempty, map_eq_ok_iff]

theorem waiting_of_store (h : progress.store argument (some value) = .ok next) :
    next.waiting = progress.waiting := by
  obtain ⟨-, -, options, -, rfl⟩ := store_some_eq_ok_iff.mp h
  rfl

theorem onlyArtifacts_of_store (h : progress.store argument (some value) = .ok next) :
    next.onlyArtifacts = progress.onlyArtifacts := by
  obtain ⟨-, -, options, -, rfl⟩ := store_some_eq_ok_iff.mp h
  rfl

/-- What is settled had nothing to store, or a value that was stored. -/
theorem settle_eq_ok_iff : progress.settle = .ok settled ↔
    progress.waiting = none ∧ progress = settled ∨
      ∃ argument value, progress.waiting = some (argument, some value) ∧
        { progress with waiting := none }.store argument (some value) = .ok settled := by
  simp only [settle]
  split
  · next hwaiting => simp [hwaiting]
  · next argument value hwaiting =>
    cases value with
    | none => simp [hwaiting, store]
    | some value =>
      constructor
      · exact fun hstore => .inr ⟨argument, value, hwaiting, hstore⟩
      · rintro (⟨hnone, -⟩ | ⟨other, stored, hother, hstore⟩)
        · cases hwaiting.symm.trans hnone
        · cases hwaiting.symm.trans hother
          exact hstore

theorem isSettled_of_settle (h : progress.settle = .ok settled) : settled.IsSettled := by
  rcases settle_eq_ok_iff.mp h with ⟨hwaiting, rfl⟩ | ⟨argument, value, -, hstore⟩
  · exact hwaiting
  · have hkept := waiting_of_store hstore
    exact hkept

theorem onlyArtifacts_of_settle (h : progress.settle = .ok settled) :
    settled.onlyArtifacts = progress.onlyArtifacts := by
  rcases settle_eq_ok_iff.mp h with ⟨-, rfl⟩ | ⟨argument, value, -, hstore⟩
  · rfl
  · have hkept := onlyArtifacts_of_store hstore
    exact hkept

/-- Whether there is an artifact does not hang on whether it is stored yet. -/
theorem hasArtifact_of_settle (h : progress.settle = .ok settled) :
    settled.hasArtifact = progress.hasArtifact := by
  rcases settle_eq_ok_iff.mp h with ⟨-, rfl⟩ | ⟨argument, value, hwaiting, hstore⟩
  · rfl
  · obtain ⟨-, -, options, -, rfl⟩ := store_some_eq_ok_iff.mp hstore
    simp [hasArtifact, hwaiting, eq_comm]

/-- A way of going on stores what waits before it does anything else. -/
def SettlesFirst (go : Progress → Except Stop Progress) : Prop :=
  ∀ progress next, go progress = .ok next ↔
    ∃ settled, progress.settle = .ok settled ∧ go settled = .ok next

theorem settlesFirst_of_match {after : Progress → Except Stop Progress}
    {go : Progress → Except Stop Progress}
    (h : ∀ progress, go progress = match progress.settle with
      | .ok settled => after settled
      | .error error => .error (.usage error)) : SettlesFirst go := by
  intro progress next
  rw [h]
  cases hsettle : progress.settle with
  | error problem => simp
  | ok settled =>
    have hsettled : settled.settle = .ok settled := (isSettled_of_settle hsettle).settle_eq
    simp [h settled, hsettled]

theorem settlesFirst_await (argument : Argument) (value : Option Bytes) :
    SettlesFirst (await · argument value) :=
  settlesFirst_of_match fun _ => rfl

theorem settlesFirst_attach (argument : Argument) (value : Bytes) :
    SettlesFirst (attach · argument value) :=
  settlesFirst_of_match fun _ => rfl

theorem settlesFirst_flag (argument : Argument) : SettlesFirst (flag · argument) :=
  settlesFirst_of_match fun _ => rfl

theorem settlesFirst_halt (reason : Stop) : SettlesFirst (halt · reason) :=
  @settlesFirst_of_match (fun _ => .error reason) _ fun _ => rfl

theorem settlesFirst_error (reason : Stop) : SettlesFirst fun _ => .error reason := by
  intro progress next
  simp

theorem settlesFirst_long (name : Bytes) : SettlesFirst (long · name) := by
  simp only [long]
  split
  · exact settlesFirst_error _
  · exact settlesFirst_await _ _
  · exact settlesFirst_attach _ _
  · exact settlesFirst_flag _
  · exact settlesFirst_halt _
  · exact settlesFirst_error _

theorem settlesFirst_lettered (argument : Argument) (rest : Bytes) :
    SettlesFirst (lettered · argument rest) := by
  cases rest with
  | nil => exact settlesFirst_await _ _
  | cons first value => exact settlesFirst_attach _ _

theorem settlesFirst_short (cluster : Bytes) : SettlesFirst (short · cluster) := by
  simp only [short]
  split
  · exact settlesFirst_halt _
  · exact settlesFirst_halt _
  · exact settlesFirst_lettered _ _
  · exact settlesFirst_lettered _ _
  · exact settlesFirst_error _
  · exact settlesFirst_error _

theorem settlesFirst_positional (value : Bytes) : SettlesFirst (positional · value) := by
  intro progress next
  simp only [positional]
  split
  · next hartifact =>
    constructor
    · rintro ⟨⟩
    · rintro ⟨settled, hsettle, hnext⟩
      rw [if_pos ((hasArtifact_of_settle hsettle).trans hartifact)] at hnext
      cases hnext
  · next hartifact =>
    rw [settlesFirst_await]
    constructor
    · rintro ⟨settled, hsettle, hnext⟩
      exact ⟨settled, hsettle, by rwa [hasArtifact_of_settle hsettle, if_neg hartifact]⟩
    · rintro ⟨settled, hsettle, hnext⟩
      rw [hasArtifact_of_settle hsettle, if_neg hartifact] at hnext
      exact ⟨settled, hsettle, hnext⟩

/-- The argument does not look like an option: a single dash does not. -/
def IsLoose (value : Bytes) : Prop :=
  value = [dash] ∨ value.head? ≠ some dash

/-- The forms that an argument can have. -/
theorem form_cases (value : Bytes) : IsLoose value ∨
    (∃ letter rest, letter ≠ dash ∧ value = dash :: letter :: rest) ∨
    value = [dash, dash] ∨ ∃ name, name ≠ [] ∧ value = dash :: dash :: name := by
  rcases value with _ | ⟨first, _ | ⟨second, rest⟩⟩
  · exact .inl (.inr (by simp))
  · by_cases hfirst : first = dash
    · exact .inl (.inl (by rw [hfirst]))
    · exact .inl (.inr (by simpa using hfirst))
  by_cases hfirst : first = dash
  · subst hfirst
    by_cases hsecond : second = dash
    · subst hsecond
      by_cases hrest : rest = []
      · exact .inr (.inr (.inl (by rw [hrest])))
      · exact .inr (.inr (.inr ⟨rest, hrest, rfl⟩))
    · exact .inr (.inl ⟨second, rest, hsecond, rfl⟩)
  · exact .inl (.inr (by simpa using hfirst))

section Take

variable (honly : progress.onlyArtifacts = false)
include honly

theorem take_loose (h : IsLoose value) : progress.take value = progress.plain value := by
  simp only [take, honly, Bool.false_eq_true, if_false]
  split
  · next first second rest =>
    rcases h with hdash | hdash
    · cases hdash
    · rw [if_pos (by simpa using hdash)]
  · rfl

theorem take_short {letter : UInt8} {rest : Bytes} (h : letter ≠ dash) :
    progress.take (dash :: letter :: rest) = progress.short (letter :: rest) := by
  simp [take, honly, h]

theorem take_escape :
    progress.take [dash, dash] = .ok { progress with onlyArtifacts := true } := by
  simp [take, honly]

theorem take_long {name : Bytes} (h : name ≠ []) :
    progress.take (dash :: dash :: name) = progress.long name := by
  simp [take, honly, h]

end Take

theorem take_of_onlyArtifacts (h : progress.onlyArtifacts = true) :
    progress.take value = progress.positional value := by
  simp only [take, h, if_true]

theorem plain_of_isProvided (h : progress.IsProvided) (value : Bytes) :
    progress.plain value = progress.positional value := by
  simp only [plain]
  split
  · next argument hwaiting => exact absurd hwaiting (h argument)
  · rfl

/-- But for the two dashes, whatever an argument does is done after what waits is stored. -/
theorem exists_settlesFirst_eq_take {only : Bool} (h : only = true ∨ value ≠ [dash, dash]) :
    ∃ go, SettlesFirst go ∧ ∀ progress : Progress, progress.IsProvided →
      progress.onlyArtifacts = only → progress.take value = go progress := by
  cases only with
  | true => exact ⟨_, settlesFirst_positional value, fun _ _ => take_of_onlyArtifacts⟩
  | false =>
    rcases form_cases value with hloose | ⟨letter, rest, hletter, rfl⟩ | rfl | ⟨name, hname, rfl⟩
    · refine ⟨_, settlesFirst_positional value, fun progress hprovided honly => ?_⟩
      rw [take_loose honly hloose, plain_of_isProvided hprovided]
    · exact ⟨_, settlesFirst_short (letter :: rest), fun _ _ honly => take_short honly hletter⟩
    · simp at h
    · exact ⟨_, settlesFirst_long name, fun _ _ honly => take_long honly hname⟩

theorem settle_onlyArtifacts_eq_ok_iff (only : Bool) :
    { progress with onlyArtifacts := only }.settle = .ok next ↔
      ∃ settled, progress.settle = .ok settled ∧ { settled with onlyArtifacts := only } = next := by
  cases hwaiting : progress.waiting with
  | none => simp [settle, hwaiting]
  | some waiting =>
    obtain ⟨argument, value⟩ := waiting
    cases value with
    | none => simp [settle, hwaiting, store]
    | some value =>
      simp only [settle, hwaiting, store_some_eq_ok_iff]
      constructor
      · rintro ⟨hgiven, hempty, options, hassign, rfl⟩
        exact ⟨_, ⟨hgiven, hempty, options, hassign, rfl⟩, rfl⟩
      · rintro ⟨settled, ⟨hgiven, hempty, options, hassign, rfl⟩, rfl⟩
        exact ⟨hgiven, hempty, options, hassign, rfl⟩

/-- What waits with its value may as well be stored at once. The induction is on the arguments;
only the two dashes are taken without storing it, and they do not touch it. -/
theorem accepts_iff_settle (h : progress.IsProvided) : progress.Accepts args final ↔
    ∃ settled, progress.settle = .ok settled ∧ settled.Accepts args final := by
  induction args generalizing progress with
  | nil =>
    simp only [accepts_nil_iff]
    constructor
    · intro hsettle
      exact ⟨final, hsettle, (isSettled_of_settle hsettle).settle_eq⟩
    · rintro ⟨settled, hsettle, hfinal⟩
      cases (isSettled_of_settle hsettle).settle_eq.symm.trans hfinal
      exact hsettle
  | cons value args ih =>
    simp only [accepts_cons_iff]
    by_cases hescape : progress.onlyArtifacts = false ∧ value = [dash, dash]
    · obtain ⟨honly, rfl⟩ := hescape
      have hprovided : IsProvided { progress with onlyArtifacts := true } := h
      have hescaped : ∀ settled, progress.settle = .ok settled →
          settled.take [dash, dash] = .ok { settled with onlyArtifacts := true } :=
        fun settled hsettle => take_escape ((onlyArtifacts_of_settle hsettle).trans honly)
      simp only [take_escape honly, Except.ok.injEq, exists_eq_left', ih hprovided,
        settle_onlyArtifacts_eq_ok_iff]
      constructor
      · rintro ⟨_, ⟨settled, hsettle, rfl⟩, hrest⟩
        exact ⟨settled, hsettle, _, hescaped settled hsettle, hrest⟩
      · rintro ⟨settled, hsettle, next, htake, hrest⟩
        cases (hescaped settled hsettle).symm.trans htake
        exact ⟨_, ⟨settled, hsettle, rfl⟩, hrest⟩
    · have hvalue : progress.onlyArtifacts = true ∨ value ≠ [dash, dash] := by
        by_cases honly : progress.onlyArtifacts = true
        · exact .inl honly
        · exact .inr fun heq => hescape ⟨by simpa using honly, heq⟩
      obtain ⟨go, hgo, htake⟩ := exists_settlesFirst_eq_take hvalue
      have hafter : ∀ settled, progress.settle = .ok settled →
          settled.take value = go settled := fun settled hsettle =>
        htake settled (isSettled_of_settle hsettle).isProvided (onlyArtifacts_of_settle hsettle)
      rw [htake progress h rfl]
      constructor
      · rintro ⟨next, hnext, hrest⟩
        obtain ⟨settled, hsettle, hnext⟩ := (hgo progress next).mp hnext
        exact ⟨settled, hsettle, next, (hafter settled hsettle).trans hnext, hrest⟩
      · rintro ⟨settled, hsettle, next, hnext, hrest⟩
        rw [hafter settled hsettle] at hnext
        exact ⟨next, (hgo progress next).mpr ⟨settled, hsettle, hnext⟩, hrest⟩

/-- With only artifacts to come, a mistake that is already made stays. -/
theorem not_accepts_of_settle_error {error : UsageError} (honly : progress.onlyArtifacts = true)
    (h : progress.settle = .error error) : ¬ progress.Accepts args final := by
  cases args with
  | nil =>
    rw [accepts_nil_iff, h]
    rintro ⟨⟩
  | cons value args =>
    rw [accepts_cons_iff]
    rintro ⟨next, htake, -⟩
    rw [take_of_onlyArtifacts honly, settlesFirst_positional, h] at htake
    obtain ⟨settled, hsettle, -⟩ := htake
    cases hsettle

section Settled

variable (hsettled : progress.IsSettled)
include hsettled

theorem accepts_waiting_iff :
    { progress with waiting := some (argument, some value) }.Accepts args final ↔
      ∃ stored, progress.store argument (some value) = .ok stored ∧ stored.Accepts args final := by
  have hprovided : IsProvided { progress with waiting := some (argument, some value) } := by
    intro other hother
    cases hother
  have hcleared : { progress with waiting := none } = progress := by
    rw [← show progress.waiting = none from hsettled]
  rw [accepts_iff_settle hprovided]
  simp only [settle, hcleared]

theorem exists_await_accepts_iff :
    (∃ next, progress.await argument (some value) = .ok next ∧ next.Accepts args final) ↔
      ∃ stored, progress.store argument (some value) = .ok stored ∧ stored.Accepts args final := by
  rw [← accepts_waiting_iff hsettled]
  simp [await, hsettled.settle_eq]

theorem exists_positional_accepts_iff :
    (∃ next, progress.positional value = .ok next ∧ next.Accepts args final) ↔
      ∃ stored, progress.store .artifact (some value) = .ok stored ∧
        stored.Accepts args final := by
  have hartifact : progress.hasArtifact = true ↔ .artifact ∈ progress.given := by
    rw [IsSettled] at hsettled
    simp [hasArtifact, hsettled]
  by_cases hgiven : .artifact ∈ progress.given
  · simp [positional, hartifact.mpr hgiven, store, hgiven]
  · rw [← exists_await_accepts_iff hsettled]
    simp [positional, mt hartifact.mp hgiven]

/-- An argument that does not look like an option, where none waits for its value. -/
theorem accepts_artifact_iff (honly : progress.onlyArtifacts = false) (hloose : IsLoose value) :
    progress.Accepts (value :: args) final ↔
      ∃ stored, progress.store .artifact (some value) = .ok stored ∧
        stored.Accepts args final := by
  rw [accepts_cons_iff, take_loose honly hloose, plain_of_isProvided hsettled.isProvided,
    exists_positional_accepts_iff hsettled]

/-- An option with its value in the same argument. -/
theorem accepts_attach_iff {token : Bytes}
    (htake : progress.take token = progress.attach argument value) :
    progress.Accepts (token :: args) final ↔
      ∃ stored, progress.store argument (some value) = .ok stored ∧
        stored.Accepts args final := by
  rw [accepts_cons_iff, htake]
  simp only [attach, hsettled.settle_eq, mapError_eq_ok_iff]

omit hsettled in
/-- An option that still waits for its value gets it from a loose argument and from no other. -/
theorem accepts_cons_of_expecting_iff (honly : progress.onlyArtifacts = false) :
    { progress with waiting := some (argument, none) }.Accepts (value :: args) final ↔
      IsLoose value ∧
        { progress with waiting := some (argument, some value) }.Accepts args final := by
  have hstuck : { progress with waiting := some (argument, none) }.settle =
      .error (.valueMissing argument) := rfl
  have hlater : { progress with waiting := some (argument, none) }.onlyArtifacts = false := honly
  rw [accepts_cons_iff]
  constructor
  · rintro ⟨next, htake, haccepts⟩
    rcases form_cases value with hloose | ⟨letter, rest, hletter, rfl⟩ | rfl | ⟨name, hname, rfl⟩
    · rw [take_loose hlater hloose] at htake
      cases htake
      exact ⟨hloose, haccepts⟩
    · rw [take_short hlater hletter, settlesFirst_short, hstuck] at htake
      obtain ⟨settled, hsettle, -⟩ := htake
      cases hsettle
    · rw [take_escape hlater] at htake
      cases htake
      exact absurd haccepts (not_accepts_of_settle_error rfl rfl)
    · rw [take_long hlater hname, settlesFirst_long, hstuck] at htake
      obtain ⟨settled, hsettle, -⟩ := htake
      cases hsettle
  · rintro ⟨hloose, haccepts⟩
    exact ⟨_, take_loose hlater hloose, haccepts⟩

/-- An option without its value, which has to be the next argument. -/
theorem accepts_expecting_iff {token : Bytes} (honly : progress.onlyArtifacts = false)
    (htake : progress.take token = progress.await argument none) :
    progress.Accepts (token :: args) final ↔ ∃ value rest, args = value :: rest ∧ IsLoose value ∧
      ∃ stored, progress.store argument (some value) = .ok stored ∧
        stored.Accepts rest final := by
  have hawait : progress.await argument none =
      .ok { progress with waiting := some (argument, none) } := by
    simp only [await, hsettled.settle_eq]
  rw [accepts_cons_iff, htake, hawait]
  simp only [Except.ok.injEq, exists_eq_left']
  cases args with
  | nil =>
    rw [accepts_nil_iff]
    constructor
    · rintro ⟨⟩
    · rintro ⟨value, rest, hargs, -⟩
      cases hargs
  | cons value args =>
    rw [accepts_cons_of_expecting_iff honly, accepts_waiting_iff hsettled]
    constructor
    · rintro ⟨hloose, hstored⟩
      exact ⟨value, args, rfl, hloose, hstored⟩
    · rintro ⟨_, _, hargs, hloose, hstored⟩
      cases hargs
      exact ⟨hloose, hstored⟩

/-- The two dashes: at most one argument may follow, of any form. -/
theorem accepts_escape_iff (honly : progress.onlyArtifacts = false) :
    progress.Accepts ([dash, dash] :: args) final ↔
      args = [] ∧ { progress with onlyArtifacts := true } = final ∨
      ∃ value, args = [value] ∧
        { progress with onlyArtifacts := true }.store .artifact (some value) = .ok final := by
  have hescaped : IsSettled { progress with onlyArtifacts := true } := hsettled
  rw [accepts_cons_iff, take_escape honly]
  simp only [Except.ok.injEq, exists_eq_left']
  rcases args with _ | ⟨value, args⟩
  · rw [accepts_nil_iff, hescaped.settle_eq]
    simp
  rw [accepts_cons_iff, take_of_onlyArtifacts rfl, exists_positional_accepts_iff hescaped]
  constructor
  · rintro ⟨stored, hstore, haccepts⟩
    have hsettle : stored.settle = .ok stored :=
      IsSettled.settle_eq ((waiting_of_store hstore).trans hescaped)
    rcases args with _ | ⟨other, args⟩
    · cases hsettle.symm.trans (accepts_nil_iff.mp haccepts)
      exact .inr ⟨value, rfl, hstore⟩
    · -- A second artifact: the first one is stored already.
      exfalso
      have hlater : stored.onlyArtifacts = true := onlyArtifacts_of_store hstore
      obtain ⟨-, -, options, -, rfl⟩ := store_some_eq_ok_iff.mp hstore
      rw [accepts_cons_iff, take_of_onlyArtifacts hlater] at haccepts
      obtain ⟨next, hnext, -⟩ := haccepts
      simp [positional, hasArtifact] at hnext
  · rintro (⟨hargs, -⟩ | ⟨_, hargs, hstore⟩)
    · cases hargs
    · cases hargs
      have hsettle : final.settle = .ok final :=
        IsSettled.settle_eq ((waiting_of_store hstore).trans hescaped)
      exact ⟨final, hstore, accepts_nil_iff.mpr hsettle⟩

end Settled

end SizeGate.CommandLine.Progress
