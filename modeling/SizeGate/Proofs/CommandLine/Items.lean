import Mathlib.Data.List.Nodup
import SizeGate.Proofs.CommandLine.Spelling
import SizeGate.Proofs.Format

/-!
What a command line gives, item by item.

An item is an argument with its value as it is meant, however it was spelled. Progress records
items: it holds each of them once, and nothing else (`Records`). Main statements: storing a value
comes to adding its item (`Values.store_eq_ok_iff`), a new item is recorded with the others
(`Records.add`), and what is recorded passes the last check exactly if the flags do not exclude each
other (`Records.checked_eq_ok_iff`).
-/

namespace SizeGate.CommandLine

open Progress (IsSettled)

inductive Item where
  | artifact (path : Bytes)
  | config (path : Bytes)
  | output (format : Format)
  | color
  | noColor
deriving DecidableEq

def Item.argument : Item → Argument
  | .artifact _ => .artifact
  | .config _ => .config
  | .output _ => .output
  | .color => .color
  | .noColor => .noColor

def Options.Has (options : Options) : Item → Prop
  | .artifact path => options.artifact = some ⟨path⟩
  | .config path => options.config = some ⟨path⟩
  | .output format => options.output = some format
  | .color => options.color = true
  | .noColor => options.noColor = true

def Item.put (options : Options) : Item → Options
  | .artifact path => { options with artifact := some ⟨path⟩ }
  | .config path => { options with config := some ⟨path⟩ }
  | .output format => { options with output := some format }
  | .color => { options with color := true }
  | .noColor => { options with noColor := true }

/-- An item takes the place of one for the same argument, and leaves the others. -/
theorem has_put_iff (options : Options) (item other : Item) : (item.put options).Has other ↔
    item = other ∨ item.argument ≠ other.argument ∧ options.Has other := by
  cases item <;> cases other <;> simp [Item.put, Options.Has, Item.argument]

theorem not_has_start (item : Item) : ¬ ({} : Options).Has item := by
  cases item <;> simp [Options.Has]

/-- Options are what they have. -/
theorem options_eq_of_has_iff {options other : Options}
    (h : ∀ item, options.Has item ↔ other.Has item) : options = other := by
  have hartifact : options.artifact = other.artifact :=
    Option.ext fun path => h (.artifact path.bytes)
  have hconfig : options.config = other.config :=
    Option.ext fun path => h (.config path.bytes)
  have houtput : options.output = other.output :=
    Option.ext fun format => h (.output format)
  have hcolor : options.color = other.color := Bool.eq_iff_iff.mpr (h .color)
  have hnoColor : options.noColor = other.noColor := Bool.eq_iff_iff.mpr (h .noColor)
  cases options
  cases other
  cases hartifact
  cases hconfig
  cases houtput
  cases hcolor
  cases hnoColor
  rfl

theorem mem_map_argument_config_iff {items : List Item} :
    Argument.config ∈ items.map Item.argument ↔ ∃ path, .config path ∈ items := by
  rw [List.mem_map]
  constructor
  · rintro ⟨item, member, hargument⟩
    cases item with
    | config path => exact ⟨path, member⟩
    | artifact | output | color | noColor => cases hargument
  · rintro ⟨path, member⟩
    exact ⟨_, member, rfl⟩

theorem mem_map_argument_flag_iff {items : List Item} {flag : Item}
    (hflag : flag = .color ∨ flag = .noColor) :
    flag.argument ∈ items.map Item.argument ↔ flag ∈ items := by
  rw [List.mem_map]
  constructor
  · rintro ⟨item, member, hargument⟩
    have hitem : item = flag := by
      rcases hflag with rfl | rfl <;> cases item <;> cases hargument <;> rfl
    rwa [← hitem]
  · exact fun member => ⟨flag, member, rfl⟩

namespace Progress

/-- What is stored where an item is. -/
def add (progress : Progress) (item : Item) : Progress :=
  { progress with options := item.put progress.options, given := progress.given ++ [item.argument] }

/-- The items that these arguments are stored as, for the arguments that have a value. -/
inductive Values : Argument → Bytes → Item → Prop where
  | artifact {path : Bytes} : path ≠ [] → Values .artifact path (.artifact path)
  | config {path : Bytes} : path ≠ [] → Values .config path (.config path)
  | output (format : Format) : Values .output (spelled format.name) (.output format)

/-- The progress holds these items and no others. -/
structure Records (progress : Progress) (items : List Item) : Prop where
  given : progress.given = items.map Item.argument
  once : (items.map Item.argument).Nodup
  has : ∀ item, progress.options.Has item ↔ item ∈ items

variable {progress next : Progress} {argument : Argument} {item : Item} {items before : List Item}
  {value : Bytes} {options : Options}

theorem assign_output_eq_ok_iff (options : Options) (value : Bytes) (set : Options) :
    assign options value .output = .ok set ↔ ∃ format, value = spelled format.name ∧
      { options with output := some format } = set := by
  have hread : ∀ format, Format.ofName? (Utf8.lossy value) = some format ↔
      value = spelled format.name := by
    intro format
    rw [Format.ofName?_eq_some_iff]
    exact Utf8.lossy_eq_iff (by cases format <;> decide)
  simp only [assign]
  split
  · next format hformat =>
    have hvalue := (hread format).mp hformat
    constructor
    · exact fun hset => ⟨format, hvalue, Except.ok.inj hset⟩
    · rintro ⟨other, hother, hset⟩
      cases hformat.symm.trans ((hread other).mpr hother)
      rw [hset]
  · next hnone =>
    constructor
    · rintro ⟨⟩
    · rintro ⟨format, hvalue, -⟩
      cases hnone.symm.trans ((hread format).mpr hvalue)

theorem Values.argument_eq (h : Values argument value item) : item.argument = argument := by
  cases h <;> rfl

theorem Values.ne_nil (h : Values argument value item) : value ≠ [] := by
  cases h with
  | artifact hpath => exact hpath
  | config hpath => exact hpath
  | output format => cases format <;> decide

theorem Values.assign_eq (h : Values argument value item) (options : Options) :
    assign options value argument = .ok (item.put options) := by
  cases h with
  | artifact | config => rfl
  | output format => exact (assign_output_eq_ok_iff _ _ _).mpr ⟨format, rfl, rfl⟩

theorem Values.store_eq_ok_iff (h : Values argument value item) :
    progress.store argument (some value) = .ok next ↔
      item.argument ∉ progress.given ∧ progress.add item = next := by
  rw [store_some_eq_ok_iff, ← h.argument_eq]
  simp [h.argument_eq, h.assign_eq, h.ne_nil, add]

theorem flag_eq_ok_iff (hsettled : progress.IsSettled) (hflag : item = .color ∨ item = .noColor) :
    progress.flag item.argument = .ok next ↔
      item.argument ∉ progress.given ∧ progress.add item = next := by
  have hassign : assign progress.options [] item.argument = .ok (item.put progress.options) := by
    rcases hflag with rfl | rfl <;> rfl
  simp only [flag, hsettled.settle_eq, hassign, add]
  split
  · next hgiven => simp [hgiven]
  · next hgiven => simp [hgiven, Except.map, Except.mapError]

theorem exists_store_iff (hvalues : Values argument value item) (P : Progress → Prop) :
    (∃ stored, progress.store argument (some value) = .ok stored ∧ P stored) ↔
      item.argument ∉ progress.given ∧ P (progress.add item) := by
  simp only [hvalues.store_eq_ok_iff, and_assoc, exists_and_left, exists_eq_left']

theorem records_start : Records {} [] where
  given := rfl
  once := .nil
  has item := by simp [not_has_start]

theorem Records.add (h : Records progress items) (hgiven : item.argument ∉ progress.given) :
    (progress.add item).Records (items ++ [item]) where
  given := by simp [Progress.add, h.given]
  once := by
    rw [h.given] at hgiven
    rw [List.map_append, List.nodup_append]
    refine ⟨h.once, List.nodup_singleton _, ?_⟩
    rintro argument member _ hitem rfl
    rw [List.map_singleton, List.mem_singleton] at hitem
    rw [hitem] at member
    exact hgiven member
  has other := by
    have hother : other ∈ items → item.argument ≠ other.argument := by
      intro member heq
      rw [h.given, heq] at hgiven
      exact hgiven (List.mem_map_of_mem member)
    rw [Progress.add, has_put_iff, h.has, List.mem_append, List.mem_singleton, eq_comm]
    constructor
    · rintro (heq | ⟨-, member⟩)
      · exact .inr heq
      · exact .inl member
    · rintro (member | heq)
      · exact .inr ⟨hother member, member⟩
      · exact .inl heq

theorem Records.not_mem_given (h : Records progress before)
    (honce : ((before ++ items).map Item.argument).Nodup) (member : item ∈ items) :
    item.argument ∉ progress.given := by
  rw [List.map_append, List.nodup_append] at honce
  rw [h.given]
  exact fun hgiven => honce.2.2 _ hgiven _ (List.mem_map_of_mem member) rfl

/-- Two flags that are given, and not the same, are the two that exclude each other. -/
theorem both_of_flags {first second : Argument} {others : List Argument}
    (honce : progress.given.Nodup)
    (hflags : (progress.given.filter fun argument => argument = .color ∨ argument = .noColor) =
      first :: second :: others) :
    .color ∈ progress.given ∧ .noColor ∈ progress.given := by
  have hmember : ∀ argument ∈ [first, second], argument ∈ progress.given ∧
      (argument = .color ∨ argument = .noColor) := by
    intro argument member
    have hfiltered : argument ∈ first :: second :: others := by
      simp only [List.mem_cons, List.not_mem_nil, or_false] at member
      rcases member with rfl | rfl <;> simp
    rw [← hflags] at hfiltered
    simpa using hfiltered
  have hdistinct : first ≠ second := by
    have hnodup := honce.filter fun argument =>
      decide (argument = Argument.color ∨ argument = Argument.noColor)
    rw [hflags] at hnodup
    rintro rfl
    simp at hnodup
  obtain ⟨hfirst, rfl | rfl⟩ := hmember first (by simp) <;>
    obtain ⟨hsecond, rfl | rfl⟩ := hmember second (by simp)
  · exact absurd rfl hdistinct
  · exact ⟨hfirst, hsecond⟩
  · exact ⟨hsecond, hfirst⟩
  · exact absurd rfl hdistinct

theorem checked_eq_ok_iff (honce : progress.given.Nodup) : progress.checked = .ok options ↔
    ¬ (.color ∈ progress.given ∧ .noColor ∈ progress.given) ∧ progress.options = options := by
  simp only [checked]
  split
  · next first second others hflags =>
    constructor
    · rintro ⟨⟩
    · exact fun hchecked => absurd (both_of_flags honce hflags) hchecked.1
  · next hflags =>
    have hapart : ¬ (.color ∈ progress.given ∧ .noColor ∈ progress.given) := by
      rintro ⟨hcolor, hnoColor⟩
      have hfiltered : ∀ argument ∈ progress.given, argument = .color ∨ argument = .noColor →
          argument ∈ progress.given.filter fun argument =>
            argument = .color ∨ argument = .noColor := by
        intro argument member hflag
        simpa using ⟨member, hflag⟩
      have hfirst := hfiltered _ hcolor (.inl rfl)
      have hsecond := hfiltered _ hnoColor (.inr rfl)
      rcases hall : progress.given.filter fun argument =>
        argument = .color ∨ argument = .noColor with _ | ⟨first, _ | ⟨second, others⟩⟩
      · rw [hall] at hfirst
        cases hfirst
      · rw [hall, List.mem_singleton] at hfirst hsecond
        cases hfirst.trans hsecond.symm
      · exact hflags first second others hall
    simp [hapart]

theorem Records.checked_eq_ok_iff (h : progress.Records items) :
    progress.checked = .ok options ↔
      ¬ (.color ∈ items ∧ .noColor ∈ items) ∧ progress.options = options := by
  have hcolor : Argument.color ∈ progress.given ↔ .color ∈ items :=
    h.given ▸ mem_map_argument_flag_iff (.inl (Eq.refl Item.color))
  have hnoColor : Argument.noColor ∈ progress.given ↔ .noColor ∈ items :=
    h.given ▸ mem_map_argument_flag_iff (.inr (Eq.refl Item.noColor))
  rw [Progress.checked_eq_ok_iff (h.given ▸ h.once), hcolor, hnoColor]

end Progress

end SizeGate.CommandLine
