import SizeGate.Config

/-!
The document that a config text is.

A document is gone through twice, and a table in it that should be a date or a time and is none may
be passed over the first time. `Documents` is about the document as a whole. Main statements: a text
that is a document is judged by what its table means (`parse_of_documents`), and no other text
gives a config (`result_ne_ok_of_not_documents`).
-/

namespace SizeGate

namespace Toml

mutual

/-- What a value means where nothing may stand beside a moment, it means everywhere. -/
theorem Value.settle?_dropped_of_refused {value meant : Value}
    (h : value.settle? .refused = some meant) : value.settle? .dropped = some meant := by
  match value with
  | .string _ | .integer _ | .float _ | .boolean _ | .datetime _ | .table [] =>
    simpa only [Value.settle?] using h
  | .array items =>
    simp only [Value.settle?, Option.map_eq_some_iff] at h ⊢
    obtain ⟨settled, hitems, hmeant⟩ := h
    exact ⟨settled, Value.settleItems?_dropped_of_refused hitems, hmeant⟩
  | .table ((key, first) :: rest) =>
    simp only [Value.settle?] at h ⊢
    split
    · next hkey =>
      rw [if_pos hkey] at h
      split at h
      · cases h
      · simpa using h
    · next hkey =>
      rw [if_neg hkey] at h
      simp only [Option.bind_eq_bind, Option.bind_eq_some_iff] at h ⊢
      obtain ⟨settled, hfirst, others, hrest, hmeant⟩ := h
      exact ⟨settled, Value.settle?_dropped_of_refused hfirst, others,
        Value.settleEntries?_dropped_of_refused hrest, hmeant⟩

theorem Value.settleItems?_dropped_of_refused {items meant : List Value}
    (h : Value.settleItems? .refused items = some meant) :
    Value.settleItems? .dropped items = some meant := by
  match items with
  | [] => exact h
  | item :: rest =>
    simp only [Value.settleItems?, Option.bind_eq_bind, Option.bind_eq_some_iff] at h ⊢
    obtain ⟨settled, hitem, others, hrest, hmeant⟩ := h
    exact ⟨settled, Value.settle?_dropped_of_refused hitem, others,
      Value.settleItems?_dropped_of_refused hrest, hmeant⟩

theorem Value.settleEntries?_dropped_of_refused {entries meant : List (String × Value)}
    (h : Value.settleEntries? .refused entries = some meant) :
    Value.settleEntries? .dropped entries = some meant := by
  match entries with
  | [] => exact h
  | (key, value) :: rest =>
    simp only [Value.settleEntries?, Option.bind_eq_bind, Option.bind_eq_some_iff] at h ⊢
    obtain ⟨settled, hvalue, others, hrest, hmeant⟩ := h
    exact ⟨settled, Value.settle?_dropped_of_refused hvalue, others,
      Value.settleEntries?_dropped_of_refused hrest, hmeant⟩

end

end Toml

namespace Config

/-- The text is a TOML document, and `table` is what it means as a whole. -/
def Documents (text : String) (table : Toml.Table) : Prop :=
  ∃ written, Toml.parse? text = some written ∧ settle? written = some table

variable {written table : Toml.Table} {text : String}

theorem lookup_of_settle? (h : settle? written = some table) (key : String) :
    written.lookup key = none ∧ table.lookup key = none ∨
      ∃ value meant, written.lookup key = some value ∧
        value.settle? (surplusUnder key) = some meant ∧ table.lookup key = some meant := by
  induction written generalizing table with
  | nil =>
    cases h
    exact .inl ⟨rfl, rfl⟩
  | cons entry rest ih =>
    simp only [settle?, List.mapM_cons, Option.bind_eq_bind, Option.bind_eq_some_iff,
      Option.map_eq_some_iff] at h
    obtain ⟨_, ⟨meant, hmeant, rfl⟩, others, hrest, htable⟩ := h
    cases htable
    rw [List.lookup_cons, List.lookup_cons]
    cases hkey : key == entry.1 with
    | true =>
      cases eq_of_beq hkey
      exact .inr ⟨_, meant, rfl, hmeant, rfl⟩
    | false => exact ih hrest

/-- The version is the same for a reader of the whole document as for one of the version alone. -/
theorem readVersion_of_settle? (h : settle? written = some table) :
    readVersion written = checkVersion (table.lookup "version") := by
  have hsurplus : surplusUnder "version" = .refused := by decide
  rw [readVersion]
  rcases lookup_of_settle? h "version" with
    ⟨hwritten, htable⟩ | ⟨value, meant, hwritten, hmeant, htable⟩
  · rw [hwritten, htable]
    rfl
  · rw [hsurplus] at hmeant
    rw [hwritten, htable, Option.map_some, Toml.Value.settle?_dropped_of_refused hmeant]

/-- A document is judged by what its table means, from the version on. -/
theorem parse_of_documents (h : Documents text table) : parse text = ofTable table := by
  obtain ⟨written, hparse, hsettle⟩ := h
  rw [parse, hparse]
  simp only [ofDocument, readVersion_of_settle? hsettle, hsettle]
  cases hversion : checkVersion (table.lookup "version") with
  | error problem => simp only [ofTable, hversion]
  | ok _ => rfl

theorem result_ne_ok_of_not_documents (h : ∀ table, ¬ Documents text table) (config : Config) :
    (parse text).result ≠ .ok config := by
  intro hresult
  cases hparse : Toml.parse? text with
  | none =>
    rw [parse, hparse] at hresult
    cases hresult
  | some written =>
    have hsettle : settle? written = none := by
      rw [Option.eq_none_iff_forall_ne_some]
      exact fun table hsettle => h table ⟨written, hparse, hsettle⟩
    simp only [parse, hparse, ofDocument, hsettle] at hresult
    split at hresult <;> cases hresult

end Config

end SizeGate
