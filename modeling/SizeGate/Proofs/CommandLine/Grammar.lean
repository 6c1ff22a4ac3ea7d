import SizeGate.Proofs.CommandLine.Items

/-!
The grammar of command lines.

A command line is a sequence of groups, each of which gives one thing, and perhaps two dashes with
an artifact of any form behind them (`Line`). The grammar knows of no order in which things are
checked. Main statement: a command line is accepted exactly if it keeps to the grammar and what it
gives goes together, and the options then hold that and nothing else, whatever its order and
spelling (`parse_eq_ok_iff_line`).
-/

namespace SizeGate.CommandLine

open Progress (IsLoose Accepts IsSettled Records)

/-- The arguments that give one item. -/
inductive Group : Item → List Bytes → Prop where
  | artifact {path : Bytes} : path ≠ [] → IsLoose path → Group (.artifact path) [path]
  | config {path : Bytes} {tokens : List Bytes} : path ≠ [] →
      Spells (spelled "-C") (spelled "--config") path tokens → Group (.config path) tokens
  | output {format : Format} {tokens : List Bytes} :
      Spells (spelled "-o") (spelled "--output") (spelled format.name) tokens →
      Group (.output format) tokens
  | color : Group .color [spelled "--color"]
  | noColor : Group .noColor [spelled "--no-color"]

/-- The command lines that give these items, in order. -/
inductive Line : List Item → List Bytes → Prop where
  | nil : Line [] []
  | group {item : Item} {items : List Item} {tokens rest : List Bytes} : Group item tokens →
      Line items rest → Line (item :: items) (tokens ++ rest)
  | escape : Line [] [spelled "--"]
  | escaped {path : Bytes} : path ≠ [] → Line [.artifact path] [spelled "--", path]

/-- What comes of the items: each of them, and the environment's config if there is no other. -/
inductive Supplied (env : Environment) (items : List Item) : Item → Prop where
  | line {item : Item} : item ∈ items → Supplied env items item
  | environment {path : Bytes} : (∀ named, .config named ∉ items) → env.config = some path →
      Supplied env items (.config path)

/-- Nothing is given twice, the flags do not exclude each other, and the environment does not name
the empty path where it has a say. -/
structure GoTogether (env : Environment) (items : List Item) : Prop where
  once : (items.map Item.argument).Nodup
  flags : ¬ (.color ∈ items ∧ .noColor ∈ items)
  environment : (∀ named, .config named ∉ items) → env.config ≠ some []

/-- An environment that has no say supplies nothing. -/
theorem supplied_iff_mem {env : Environment} {items : List Item}
    (hsilent : ∀ path, (∀ named, .config named ∉ items) → env.config ≠ some path) (item : Item) :
    Supplied env items item ↔ item ∈ items := by
  constructor
  · intro hsupplied
    cases hsupplied with
    | line member => exact member
    | environment hnames hpath => exact absurd hpath (hsilent _ hnames)
  · exact .line

theorem supplied_iff_mem_or_eq {env : Environment} {items : List Item} {path : Bytes}
    (hnames : ∀ named, .config named ∉ items) (henv : env.config = some path) (item : Item) :
    Supplied env items item ↔ item ∈ items ∨ item = .config path := by
  constructor
  · intro hsupplied
    cases hsupplied with
    | line member => exact .inl member
    | environment _ hother =>
      cases henv.symm.trans hother
      exact .inr rfl
  · intro hitem
    rcases hitem with member | rfl
    · exact .line member
    · exact .environment hnames henv

namespace Progress

variable {progress final stored : Progress} {item : Item} {items before : List Item} {token : Bytes}
  {args rest tokens : List Bytes}

section Settled

variable (hsettled : progress.IsSettled) (honly : progress.onlyArtifacts = false)
include hsettled honly

/-- A group is taken exactly if what it gives is not there yet. -/
theorem accepts_group_iff (h : Group item tokens) : progress.Accepts (tokens ++ rest) final ↔
    item.argument ∉ progress.given ∧ (progress.add item).Accepts rest final := by
  have hflag : ∀ {flag token}, flag = .color ∨ flag = .noColor → IsFlag flag.argument token →
      (progress.Accepts ([token] ++ rest) final ↔
        flag.argument ∉ progress.given ∧ (progress.add flag).Accepts rest final) := by
    intro flag token heither hflag
    rw [List.singleton_append, accepts_cons_iff, take_of_isFlag hflag honly]
    simp only [flag_eq_ok_iff hsettled heither, and_assoc, exists_and_left, exists_eq_left']
  cases h with
  | artifact hpath hloose =>
    rw [List.singleton_append, accepts_artifact_iff hsettled honly hloose,
      exists_store_iff (.artifact hpath)]
  | config hpath hspells =>
    rw [accepts_spells_iff hsettled honly .config hspells hpath, exists_store_iff (.config hpath)]
  | @output format _ hspells =>
    have hvalues := Values.output format
    rw [accepts_spells_iff hsettled honly .output hspells hvalues.ne_nil, exists_store_iff hvalues]
  | color => exact hflag (.inl rfl) .color
  | noColor => exact hflag (.inr rfl) .noColor

/-- Every accepted argument but the two dashes begins a group. -/
theorem exists_group_of_accepts (h : progress.Accepts (token :: args) final)
    (hescape : token ≠ [dash, dash]) :
    ∃ item tokens rest, Group item tokens ∧ token :: args = tokens ++ rest := by
  by_cases hloose : IsLoose token
  · obtain ⟨stored, hstore, -⟩ := (accepts_artifact_iff hsettled honly hloose).mp h
    obtain ⟨-, hpath, -⟩ := store_some_eq_ok_iff.mp hstore
    exact ⟨_, [token], args, .artifact hpath hloose, rfl⟩
  rcases spelling_cases hsettled honly hloose h with hdashes | ⟨argument, hflag⟩ |
    ⟨argument, short, long, value, tokens, rest, hnames, hspells, hargs, stored, hstore⟩
  · exact absurd hdashes hescape
  · cases hflag with
    | color => exact ⟨_, _, args, .color, rfl⟩
    | noColor => exact ⟨_, _, args, .noColor, rfl⟩
  · obtain ⟨-, hvalue, set, hassign, -⟩ := store_some_eq_ok_iff.mp hstore
    cases hnames with
    | config => exact ⟨_, tokens, rest, .config hvalue hspells, hargs⟩
    | output =>
      obtain ⟨format, rfl, -⟩ := (assign_output_eq_ok_iff _ _ _).mp hassign
      exact ⟨_, tokens, rest, .output hspells, hargs⟩

end Settled

theorem Group.tokens_ne_nil (h : Group item tokens) : tokens ≠ [] := by
  cases h with
  | config _ hspells | output hspells => cases hspells <;> simp
  | artifact | color | noColor => simp

/-- Whatever is accepted keeps to the grammar. The induction is on the length of what is left,
since a group may take two arguments. -/
theorem exists_line_of_accepts (hsettled : progress.IsSettled)
    (honly : progress.onlyArtifacts = false) (h : progress.Accepts args final) :
    ∃ items, Line items args := by
  induction hlength : args.length using Nat.strongRecOn generalizing progress args with
  | ind length ih =>
    rcases args with _ | ⟨token, args⟩
    · exact ⟨[], .nil⟩
    by_cases hescape : token = [dash, dash]
    · subst hescape
      rcases (accepts_escape_iff hsettled honly).mp h with ⟨rfl, -⟩ | ⟨path, rfl, hstore⟩
      · exact ⟨[], .escape⟩
      · obtain ⟨-, hpath, -⟩ := store_some_eq_ok_iff.mp hstore
        exact ⟨_, .escaped hpath⟩
    · obtain ⟨item, tokens, rest, hgroup, hargs⟩ := exists_group_of_accepts hsettled honly h hescape
      rw [hargs] at h hlength ⊢
      have hshorter : rest.length < length := by
        have hnonempty := List.length_pos_iff.mpr (Group.tokens_ne_nil hgroup)
        rw [← hlength, List.length_append]
        omega
      obtain ⟨-, hrest⟩ := (accepts_group_iff hsettled honly hgroup).mp h
      have hadded : (progress.add item).IsSettled := hsettled
      obtain ⟨items, hline⟩ := ih _ hshorter hadded honly hrest rfl
      exact ⟨_, .group hgroup hline⟩

/-- What a line gives is added to what is there. -/
theorem Records.of_line (hrecords : progress.Records before) (hsettled : progress.IsSettled)
    (honly : progress.onlyArtifacts = false) (h : Line items args)
    (haccepts : progress.Accepts args final) : final.Records (before ++ items) := by
  induction h generalizing progress before with
  | nil =>
    rw [accepts_nil_iff, hsettled.settle_eq] at haccepts
    cases haccepts
    rwa [List.append_nil]
  | group hgroup _ ih =>
    obtain ⟨hgiven, hrest⟩ := (accepts_group_iff hsettled honly hgroup).mp haccepts
    have hfinal := ih (hrecords.add hgiven) hsettled honly hrest
    rwa [List.append_assoc] at hfinal
  | escape =>
    rcases (accepts_escape_iff hsettled honly).mp haccepts with ⟨-, rfl⟩ | ⟨path, hargs, -⟩
    · rw [List.append_nil]
      exact ⟨hrecords.given, hrecords.once, hrecords.has⟩
    · cases hargs
  | escaped hpath =>
    rcases (accepts_escape_iff hsettled honly).mp haccepts with ⟨hargs, -⟩ | ⟨path, hargs, hstore⟩
    · cases hargs
    · cases hargs
      obtain ⟨hgiven, rfl⟩ := (Values.artifact hpath).store_eq_ok_iff.mp hstore
      have hescaped : Records { progress with onlyArtifacts := true } before :=
        ⟨hrecords.given, hrecords.once, hrecords.has⟩
      exact hescaped.add hgiven

/-- A line that gives nothing twice is taken to its end. -/
theorem Records.exists_accepts (hrecords : progress.Records before)
    (hsettled : progress.IsSettled) (honly : progress.onlyArtifacts = false) (h : Line items args)
    (honce : ((before ++ items).map Item.argument).Nodup) :
    ∃ final, progress.Accepts args final := by
  induction h generalizing progress before with
  | nil => exact ⟨_, accepts_nil_iff.mpr hsettled.settle_eq⟩
  | @group item items tokens rest hgroup _ ih =>
    have hgiven := hrecords.not_mem_given honce List.mem_cons_self
    obtain ⟨final, hfinal⟩ := ih (hrecords.add hgiven) hsettled honly (by simpa using honce)
    exact ⟨final, (accepts_group_iff hsettled honly hgroup).mpr ⟨hgiven, hfinal⟩⟩
  | escape => exact ⟨_, (accepts_escape_iff hsettled honly).mpr (.inl ⟨rfl, rfl⟩)⟩
  | escaped hpath =>
    have hgiven := hrecords.not_mem_given honce List.mem_cons_self
    exact ⟨_, (accepts_escape_iff hsettled honly).mpr
      (.inr ⟨_, rfl, (Values.artifact hpath).store_eq_ok_iff.mpr ⟨hgiven, rfl⟩⟩)⟩

theorem Records.mem_given_config_iff (h : progress.Records items) :
    .config ∈ progress.given ↔ ∃ named, .config named ∈ items := by
  rw [h.given, mem_map_argument_config_iff]

/-- What is stored in the end, with the environment's config if it has a say. -/
theorem Records.of_fallBack {env : Environment} (h : progress.Records items)
    (hstore : progress.fallBack env.config = .ok stored) : ∃ supplied, stored.Records supplied ∧
      (∀ item, item ∈ supplied ↔ Supplied env items item) ∧
      ((∀ named, .config named ∉ items) → env.config ≠ some []) := by
  cases henv : env.config with
  | none =>
    rw [henv] at hstore
    cases hstore
    have hsilent : ∀ path, (∀ named, .config named ∉ items) → env.config ≠ some path := by
      simp [henv]
    exact ⟨items, h, fun item => (supplied_iff_mem hsilent item).symm, by simp⟩
  | some path =>
    simp only [henv, fallBack] at hstore
    split at hstore
    · next hgiven =>
      cases hstore
      obtain ⟨named, member⟩ := h.mem_given_config_iff.mp hgiven
      have hsilent : ∀ path, (∀ named, .config named ∉ items) → env.config ≠ some path :=
        fun _ hnone => absurd member (hnone named)
      exact ⟨items, h, fun item => (supplied_iff_mem hsilent item).symm,
        fun hnone => absurd member (hnone named)⟩
    · next hgiven =>
      obtain ⟨-, hpath, -⟩ := store_some_eq_ok_iff.mp hstore
      obtain ⟨-, rfl⟩ := (Values.config hpath).store_eq_ok_iff.mp hstore
      have hadded : (progress.add (.config path)).Records (items ++ [.config path]) := h.add hgiven
      have hnames : ∀ named, .config named ∉ items :=
        fun named member => hgiven (h.mem_given_config_iff.mpr ⟨named, member⟩)
      refine ⟨items ++ [.config path], hadded, fun item => ?_, fun _ => by simpa using hpath⟩
      rw [supplied_iff_mem_or_eq hnames henv, List.mem_append, List.mem_singleton]

theorem Records.exists_fallBack {env : Environment} (h : progress.Records items)
    (henv : (∀ named, .config named ∉ items) → env.config ≠ some []) :
    ∃ stored, progress.fallBack env.config = .ok stored := by
  cases hconfig : env.config with
  | none => exact ⟨progress, rfl⟩
  | some path =>
    simp only [fallBack]
    split
    · exact ⟨progress, rfl⟩
    · next hgiven =>
      have hpath : path ≠ [] := by
        rintro rfl
        refine henv (fun named member => hgiven ?_) hconfig
        exact h.mem_given_config_iff.mpr ⟨named, member⟩
      exact ⟨_, (Values.config hpath).store_eq_ok_iff.mpr ⟨hgiven, rfl⟩⟩

end Progress

variable {env : Environment} {items others : List Item} {args : List Bytes} {options : Options}

theorem parse_eq_ok_iff_accepts : parse env args = .ok options ↔ ∃ final stored : Progress,
    Accepts {} args final ∧ final.fallBack env.config = .ok stored ∧
      stored.checked = .ok options := by
  rw [parse_eq_ok_iff]
  constructor
  · rintro ⟨read, final, stored, hread, hsettle, hstore, hchecked⟩
    exact ⟨final, stored, ⟨read, hread, hsettle⟩, hstore, hchecked⟩
  · rintro ⟨final, stored, ⟨read, hread, hsettle⟩, hstore, hchecked⟩
    exact ⟨read, final, stored, hread, hsettle, hstore, hchecked⟩

/-- The environment gives no flag. -/
theorem supplied_flag_iff {flag : Item} (hflag : flag = .color ∨ flag = .noColor) :
    Supplied env items flag ↔ flag ∈ items := by
  constructor
  · intro hsupplied
    cases hsupplied with
    | line member => exact member
    | environment => rcases hflag with hflag | hflag <;> cases hflag
  · exact .line

/-- Reading a line that keeps to the grammar: it hangs on what is given, and not on how. -/
theorem parse_eq_ok_iff_of_line (h : Line items args) : parse env args = .ok options ↔
    GoTogether env items ∧ ∀ item, options.Has item ↔ Supplied env items item := by
  have hstart : Records {} [] := Progress.records_start
  rw [parse_eq_ok_iff_accepts]
  constructor
  · rintro ⟨final, stored, haccepts, hstore, hchecked⟩
    have hfinal := hstart.of_line rfl rfl h haccepts
    obtain ⟨supplied, hstored, hsupplied, henv⟩ := hfinal.of_fallBack hstore
    obtain ⟨hflags, rfl⟩ := hstored.checked_eq_ok_iff.mp hchecked
    rw [hsupplied, hsupplied, supplied_flag_iff (.inl rfl), supplied_flag_iff (.inr rfl)] at hflags
    refine ⟨⟨hfinal.once, hflags, henv⟩, fun item => ?_⟩
    rw [hstored.has, hsupplied]
    rfl
  · rintro ⟨⟨honce, hflags, henv⟩, hhas⟩
    obtain ⟨final, haccepts⟩ := hstart.exists_accepts rfl rfl h honce
    have hfinal : final.Records items := hstart.of_line rfl rfl h haccepts
    obtain ⟨stored, hstore⟩ := hfinal.exists_fallBack henv
    obtain ⟨supplied, hstored, hsupplied, -⟩ := hfinal.of_fallBack hstore
    refine ⟨final, stored, haccepts, hstore, hstored.checked_eq_ok_iff.mpr ⟨?_, ?_⟩⟩
    · rwa [hsupplied, hsupplied, supplied_flag_iff (.inl rfl), supplied_flag_iff (.inr rfl)]
    · refine options_eq_of_has_iff fun item => ?_
      rw [hstored.has, hsupplied, hhas]

theorem exists_line_of_parse (h : parse env args = .ok options) : ∃ items, Line items args := by
  obtain ⟨final, -, haccepts, -⟩ := parse_eq_ok_iff_accepts.mp h
  have hsettled : IsSettled {} := rfl
  exact Progress.exists_line_of_accepts hsettled rfl haccepts

theorem Supplied.of_perm (h : items.Perm others) {item : Item}
    (hsupplied : Supplied env items item) :
    Supplied env others item := by
  cases hsupplied with
  | line member => exact .line (h.mem_iff.mp member)
  | environment hnone hpath =>
    exact .environment (fun named member => hnone named (h.mem_iff.mpr member)) hpath

theorem GoTogether.of_perm (h : items.Perm others) (htogether : GoTogether env items) :
    GoTogether env others where
  once := (h.map _).nodup_iff.mp htogether.once
  flags hboth := htogether.flags ⟨h.mem_iff.mpr hboth.1, h.mem_iff.mpr hboth.2⟩
  environment hnone :=
    htogether.environment fun named member => hnone named (h.mem_iff.mp member)

/-- No line gives an empty path. -/
theorem Line.path_ne_nil (h : Line items args) {item : Item} (member : item ∈ items) :
    item ≠ .artifact [] ∧ item ≠ .config [] := by
  induction h with
  | nil | escape => cases member
  | group hgroup _ ih =>
    rcases List.mem_cons.mp member with rfl | member
    · cases hgroup with
      | artifact hpath | config hpath => simpa using hpath
      | output | color | noColor => simp
    · exact ih member
  | escaped hpath =>
    cases List.mem_singleton.mp member
    simpa using hpath

theorem Supplied.path_ne_nil (h : Line items args) (htogether : GoTogether env items) {item : Item}
    (hsupplied : Supplied env items item) : item ≠ .artifact [] ∧ item ≠ .config [] := by
  cases hsupplied with
  | line member => exact h.path_ne_nil member
  | environment hnone hpath =>
    have hnonempty := htogether.environment hnone
    rw [hpath] at hnonempty
    simpa using hnonempty

/-- A command line is accepted exactly if it keeps to the grammar and what it gives goes together.
The options then have what it gives, and the environment's config if it names none. Two lines that
give the same, in any order and spelling, are read alike. So options never have both flags or an
empty path. -/
theorem parse_eq_ok_iff_line (env : Environment) :
    (∀ args options, parse env args = .ok options ↔ ∃ items, Line items args ∧
      GoTogether env items ∧ ∀ item, options.Has item ↔ Supplied env items item) ∧
    (∀ items args others reordered, Line items args → Line others reordered → items.Perm others →
      ∀ options, parse env args = .ok options ↔ parse env reordered = .ok options) ∧
    ∀ args options, parse env args = .ok options → ¬ (options.Has .color ∧ options.Has .noColor) ∧
      ¬ options.Has (.artifact []) ∧ ¬ options.Has (.config []) := by
  refine ⟨fun args options => ?_, ?_, fun args options h => ?_⟩
  · constructor
    · intro h
      obtain ⟨items, hline⟩ := exists_line_of_parse h
      exact ⟨items, hline, (parse_eq_ok_iff_of_line hline).mp h⟩
    · rintro ⟨items, hline, hgives⟩
      exact (parse_eq_ok_iff_of_line hline).mpr hgives
  · intro items args others reordered hline hreordered hperm options
    have hsupplied : ∀ item, Supplied env items item ↔ Supplied env others item := fun item =>
      ⟨.of_perm hperm, .of_perm hperm.symm⟩
    have htogether : GoTogether env items ↔ GoTogether env others :=
      ⟨.of_perm hperm, .of_perm hperm.symm⟩
    rw [parse_eq_ok_iff_of_line hline, parse_eq_ok_iff_of_line hreordered, htogether]
    simp only [hsupplied]
  · obtain ⟨items, hline⟩ := exists_line_of_parse h
    obtain ⟨htogether, hhas⟩ := (parse_eq_ok_iff_of_line hline).mp h
    rw [hhas, hhas, hhas, hhas, supplied_flag_iff (.inl rfl), supplied_flag_iff (.inr rfl)]
    refine ⟨htogether.flags, fun hartifact => ?_, fun hconfig => ?_⟩
    · exact (hartifact.path_ne_nil hline htogether).1 rfl
    · exact (hconfig.path_ne_nil hline htogether).2 rfl

/-- A format in front of the artifact reads like the same format behind it in another spelling. -/
theorem parse_format_in_front_and_behind :
    parse {} [spelled "-o=json", spelled "app.bin"] =
      .ok { artifact := some ⟨spelled "app.bin"⟩, output := some .json } ↔
    parse {} [spelled "app.bin", spelled "--output", spelled "json"] =
      .ok { artifact := some ⟨spelled "app.bin"⟩, output := some .json } := by
  have hartifact : Group (.artifact (spelled "app.bin")) [spelled "app.bin"] :=
    .artifact (by decide) (.inr (by decide))
  have hfront : Group (.output .json) [spelled "-o=json"] := .output .shortEquals
  have hbehind : Group (.output .json) [spelled "--output", spelled "json"] :=
    .output (.longApart (.inr (by decide)))
  exact (parse_eq_ok_iff_line {}).2.1 _ _ _ _ (.group hfront (.group hartifact .nil))
    (.group hartifact (.group hbehind .nil)) (List.Perm.swap _ _ []) _

end SizeGate.CommandLine
