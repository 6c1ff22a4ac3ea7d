import SizeGate.Proofs.CommandLine.Grammar

/-!
Command lines with another artifact.

`Replaces` puts an artifact behind two dashes at the end of a command line, and leaves out the one
that was there. Main statement: nothing else about the options changes (`parse_of_replaces`).
-/

namespace SizeGate.CommandLine

/-- The artifact of a command line, if it has one, is left out, and `path` stands at the end. -/
inductive Replaces (path : Bytes) : List Bytes → List Bytes → Prop where
  | nil : Replaces path [] [spelled "--", path]
  | escape : Replaces path [spelled "--"] [spelled "--", path]
  | escaped {other : Bytes} : other ≠ [] → Replaces path [spelled "--", other] [spelled "--", path]
  | dropped {other : Bytes} {tokens rest replaced : List Bytes} : Group (.artifact other) tokens →
      Replaces path rest replaced → Replaces path (tokens ++ rest) replaced
  | kept {item : Item} {tokens rest replaced : List Bytes} : item.argument ≠ .artifact →
      Group item tokens → Replaces path rest replaced →
      Replaces path (tokens ++ rest) (tokens ++ replaced)

/-- What such a command line gives: its own items but for the artifact, and that one. -/
def withArtifact (path : Bytes) (items : List Item) : List Item :=
  (items.filter fun item => item.argument ≠ .artifact) ++ [.artifact path]

variable {env : Environment} {path : Bytes} {items : List Item} {args replaced : List Bytes}
  {options : Options}

theorem mem_withArtifact_iff (path : Bytes) (items : List Item) (item : Item) :
    item ∈ withArtifact path items ↔
      item = .artifact path ∨ item.argument ≠ .artifact ∧ item ∈ items := by
  rw [withArtifact, List.mem_append, List.mem_filter, List.mem_singleton, decide_eq_true_eq,
    or_comm, and_comm]

theorem nodup_withArtifact (path : Bytes) (h : (items.map Item.argument).Nodup) :
    ((withArtifact path items).map Item.argument).Nodup := by
  rw [withArtifact, List.map_append, List.nodup_append]
  refine ⟨h.sublist (List.filter_sublist.map _), List.nodup_singleton _, ?_⟩
  intro argument member other hother
  obtain ⟨item, hitem, rfl⟩ := List.mem_map.mp member
  rw [List.mem_singleton.mp hother]
  exact of_decide_eq_true (List.mem_filter.mp hitem).2

theorem Replaces.exists_line (hpath : path ≠ []) (h : Replaces path args replaced) :
    ∃ items, Line items args ∧ Line (withArtifact path items) replaced := by
  induction h with
  | nil => exact ⟨[], .nil, .escaped hpath⟩
  | escape => exact ⟨[], .escape, .escaped hpath⟩
  | @escaped other hother => exact ⟨[.artifact other], .escaped hother, .escaped hpath⟩
  | dropped hgroup _ ih =>
    obtain ⟨items, hline, hreplaced⟩ := ih
    exact ⟨_, .group hgroup hline, hreplaced⟩
  | @kept item _ _ _ hartifact hgroup _ ih =>
    obtain ⟨items, hline, hreplaced⟩ := ih
    refine ⟨item :: items, .group hgroup hline, ?_⟩
    rw [withArtifact, List.filter_cons_of_pos (by simpa using hartifact)]
    exact .group hgroup hreplaced

/-- Whatever else a line or the environment gives, they still give. -/
theorem supplied_withArtifact_iff (item : Item) : Supplied env (withArtifact path items) item ↔
    item = .artifact path ∨ item.argument ≠ .artifact ∧ Supplied env items item := by
  have hconfig : ∀ named, .config named ∈ withArtifact path items ↔ .config named ∈ items := by
    intro named
    simp [mem_withArtifact_iff, Item.argument]
  constructor
  · intro hsupplied
    cases hsupplied with
    | line member =>
      rcases (mem_withArtifact_iff path items item).mp member with rfl | ⟨hargument, hitem⟩
      · exact .inl rfl
      · exact .inr ⟨hargument, .line hitem⟩
    | environment hnames henv =>
      simp only [hconfig] at hnames
      exact .inr ⟨by simp [Item.argument], .environment hnames henv⟩
  · rintro (rfl | ⟨hargument, hsupplied⟩)
    · exact .line ((mem_withArtifact_iff path items _).mpr (.inl rfl))
    · cases hsupplied with
      | line member =>
        exact .line ((mem_withArtifact_iff path items item).mpr (.inr ⟨hargument, member⟩))
      | environment hnames henv =>
        simp only [← hconfig] at hnames
        exact .environment hnames henv

theorem GoTogether.withArtifact (h : GoTogether env items) (path : Bytes) :
    GoTogether env (withArtifact path items) where
  once := nodup_withArtifact path h.once
  flags := by
    simpa [mem_withArtifact_iff, Item.argument] using h.flags
  environment := by
    simpa [mem_withArtifact_iff, Item.argument] using h.environment

theorem exists_replaces (h : Line items args) (path : Bytes) :
    ∃ replaced, Replaces path args replaced := by
  induction h with
  | nil => exact ⟨_, .nil⟩
  | @group item items tokens rest hgroup _ ih =>
    obtain ⟨replaced, hreplaced⟩ := ih
    by_cases hartifact : item.argument = .artifact
    · cases item with
      | artifact other => exact ⟨_, .dropped hgroup hreplaced⟩
      | config | output | color | noColor => cases hartifact
    · exact ⟨_, .kept hartifact hgroup hreplaced⟩
  | escape => exact ⟨_, .escape⟩
  | escaped hother => exact ⟨_, .escaped hother⟩

/-- The options are the same but for the artifact. -/
theorem parse_of_replaces (hpath : path ≠ []) (h : Replaces path args replaced)
    (hparse : parse env args = .ok options) :
    parse env replaced = .ok { options with artifact := some ⟨path⟩ } := by
  obtain ⟨items, hline, hreplaced⟩ := h.exists_line hpath
  obtain ⟨htogether, hhas⟩ := (parse_eq_ok_iff_of_line hline).mp hparse
  refine (parse_eq_ok_iff_of_line hreplaced).mpr ⟨htogether.withArtifact path, fun item => ?_⟩
  have hput := has_put_iff options (.artifact path) item
  rw [supplied_withArtifact_iff, ← hhas, eq_comm, ne_comm]
  exact hput

end SizeGate.CommandLine
