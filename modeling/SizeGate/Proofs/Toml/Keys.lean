import SizeGate.Toml.Document

/-!
No table of a document has a key twice.

A document is put together entry by entry, in tables that may be opened again later and by keys that
reach through several of them. `Slot.Distinct` is what each statement keeps of the tables built so
far, and `Value.Distinct` what is left of it once they are finished. Main statement: in the table of
a document, and in every table below it, all keys are distinct (`parse?_distinct`).
-/

namespace SizeGate.Toml

/-- No key of a table stands twice. -/
def HasDistinctKeys {α : Type} (entries : List (String × α)) : Prop :=
  (entries.map Prod.fst).Nodup

/-- In every table within the value, all keys are distinct. -/
inductive Value.Distinct : Value → Prop where
  | string (text : String) : Distinct (.string text)
  | integer (value : Int) : Distinct (.integer value)
  | float (value : Real) : Distinct (.float value)
  | boolean (value : Bool) : Distinct (.boolean value)
  | datetime (value : Moment) : Distinct (.datetime value)
  | array {items : List Value} : (∀ item ∈ items, item.Distinct) → Distinct (.array items)
  | table {entries : Table} : HasDistinctKeys entries →
      (∀ entry ∈ entries, entry.2.Distinct) → Distinct (.table entries)

/-- The same of a slot, whose tables may still grow. -/
inductive Slot.Distinct : Slot → Prop where
  | value {value : Value} : value.Distinct → Distinct (.value value)
  | table {origin : Origin} {entries : Entries} : HasDistinctKeys entries →
      (∀ entry ∈ entries, entry.2.Distinct) → Distinct (.table origin entries)
  | tables {elements : List Entries} : (∀ entries ∈ elements, HasDistinctKeys entries) →
      (∀ entries ∈ elements, ∀ entry ∈ entries, entry.2.Distinct) → Distinct (.tables elements)

/-- The same of the entries of a table that may still grow. -/
structure Entries.Distinct (entries : Entries) : Prop where
  keys : HasDistinctKeys entries
  slots : ∀ entry ∈ entries, entry.2.Distinct

section Lookup

variable {α : Type} {entries : List (String × α)} {key : String} {value : α}

theorem mem_of_lookup (h : entries.lookup key = some value) : (key, value) ∈ entries := by
  obtain ⟨front, back, rfl, -⟩ := List.lookup_eq_some_iff.mp h
  exact List.mem_append_right front List.mem_cons_self

theorem notMem_keys_of_lookup (h : entries.lookup key = none) : key ∉ entries.map Prod.fst := by
  intro member
  obtain ⟨entry, hentry, rfl⟩ := List.mem_map.mp member
  simpa using List.lookup_eq_none_iff.mp h entry hentry

theorem hasDistinctKeys_append (h : HasDistinctKeys entries) (hkey : key ∉ entries.map Prod.fst)
    (value : α) : HasDistinctKeys (entries ++ [(key, value)]) := by
  rw [HasDistinctKeys, List.map_append, List.nodup_append]
  refine ⟨h, by simp, ?_⟩
  intro other hother added hadded
  rw [List.mem_singleton.mp hadded]
  rintro rfl
  exact hkey hother

theorem Value.Distinct.keys {table : Table} (h : (Value.table table).Distinct) :
    HasDistinctKeys table := by
  cases h with
  | table hkeys _ => exact hkeys

theorem Value.Distinct.of_lookup {table : Table} {value : Value}
    (h : (Value.table table).Distinct) (hlookup : table.lookup key = some value) :
    value.Distinct := by
  cases h with
  | table _ hdistinct => exact hdistinct _ (mem_of_lookup hlookup)

end Lookup

namespace Entries

variable {entries : Entries} {key : String} {slot : Slot}

theorem distinct_nil : Distinct [] :=
  ⟨List.nodup_nil, by simp⟩

theorem Distinct.slot_of_lookup (h : entries.Distinct) (hlookup : entries.lookup key = some slot) :
    slot.Distinct :=
  h.slots _ (mem_of_lookup hlookup)

theorem Distinct.of_table {origin : Origin} (h : (Slot.table origin entries).Distinct) :
    entries.Distinct := by
  cases h with
  | table hkeys hslots => exact ⟨hkeys, hslots⟩

theorem Distinct.table (h : entries.Distinct) (origin : Origin) :
    (Slot.table origin entries).Distinct :=
  .table h.keys h.slots

theorem Distinct.of_tables {elements : List Entries} (h : (Slot.tables elements).Distinct) :
    ∀ entries ∈ elements, entries.Distinct := by
  cases h with
  | tables hkeys hslots => exact fun entries member => ⟨hkeys _ member, hslots _ member⟩

theorem distinct_tables {elements : List Entries} (h : ∀ entries ∈ elements, entries.Distinct) :
    (Slot.tables elements).Distinct :=
  .tables (fun entries member => (h entries member).keys)
    (fun entries member => (h entries member).slots)

theorem Distinct.append (h : entries.Distinct) (hkey : key ∉ entries.map Prod.fst)
    (hslot : slot.Distinct) : Distinct (entries ++ [(key, slot)]) := by
  refine ⟨hasDistinctKeys_append h.keys hkey slot, ?_⟩
  intro entry member
  rcases List.mem_append.mp member with hold | hnew
  · exact h.slots entry hold
  · rw [List.mem_singleton.mp hnew]
    exact hslot

/-- Replacing what stands under a key leaves the keys as they are. -/
theorem keys_replace (entries : Entries) (key : String) (slot : Slot) :
    (entries.replace key slot).map Prod.fst = entries.map Prod.fst := by
  rw [replace, List.map_map]
  apply List.map_congr_left
  intro entry _
  simp only [Function.comp_apply]
  split
  · next hkey => exact hkey.symm
  · rfl

theorem Distinct.replace (h : entries.Distinct) (hslot : slot.Distinct) :
    (entries.replace key slot).Distinct := by
  refine ⟨?_, ?_⟩
  · rw [HasDistinctKeys, keys_replace]
    exact h.keys
  · intro entry member
    obtain ⟨old, hold, rfl⟩ := List.mem_map.mp member
    split
    · exact hslot
    · exact h.slots old hold

theorem notMem_keys_remove (entries : Entries) (key : String) :
    key ∉ (entries.remove key).map Prod.fst := by
  intro member
  obtain ⟨entry, hentry, rfl⟩ := List.mem_map.mp member
  simpa using (List.mem_filter.mp hentry).2

theorem Distinct.remove (h : entries.Distinct) (key : String) : (entries.remove key).Distinct := by
  refine ⟨?_, fun entry member => h.slots entry (List.mem_filter.mp member).1⟩
  exact h.keys.sublist (List.filter_sublist.map Prod.fst)

/-- A change that keeps keys distinct in the table it is made to keeps them so everywhere. The
induction is on the path to that table. -/
theorem Distinct.descend {dotted : Bool} {change : Origin → Entries → Option Entries}
    (hchange : ∀ origin below changed, below.Distinct → change origin below = some changed →
      changed.Distinct)
    {path : List String} {origin : Origin} {changed : Entries} (h : entries.Distinct)
    (hdescend : Entries.descend dotted change path origin entries = some changed) :
    changed.Distinct := by
  induction path generalizing origin entries changed with
  | nil => exact hchange origin entries changed h hdescend
  | cons key rest ih =>
    simp only [Entries.descend] at hdescend
    split at hdescend
    · next hlookup =>
      simp only [Option.bind_eq_bind, Option.bind_eq_some_iff, Option.some.injEq] at hdescend
      obtain ⟨below, hbelow, rfl⟩ := hdescend
      exact h.append (notMem_keys_of_lookup hlookup) ((ih distinct_nil hbelow).table _)
    · cases hdescend
    · next origin' entries' hlookup =>
      split at hdescend
      · cases hdescend
      · simp only [Option.bind_eq_bind, Option.bind_eq_some_iff, Option.some.injEq] at hdescend
        obtain ⟨below, hbelow, rfl⟩ := hdescend
        have hold := Distinct.of_table (h.slot_of_lookup hlookup)
        exact h.replace ((ih hold hbelow).table _)
    · next elements hlookup =>
      simp only [Option.bind_eq_bind, Option.bind_eq_some_iff, Option.some.injEq] at hdescend
      obtain ⟨last, hlast, below, hbelow, rfl⟩ := hdescend
      have hold := Distinct.of_tables (h.slot_of_lookup hlookup)
      have hnew := ih (hold last (List.mem_of_getLast? hlast)) hbelow
      refine h.replace (distinct_tables fun element member => ?_)
      rcases List.mem_append.mp member with hfront | hlast
      · exact hold element ((List.dropLast_sublist elements).subset hfront)
      · rw [List.mem_singleton.mp hlast]
        exact hnew

theorem Distinct.insert {dotted : Bool} {value : Value} {origin : Origin} {changed : Entries}
    (h : entries.Distinct) (hvalue : value.Distinct)
    (hinsert : Entries.insert dotted key value origin entries = some changed) :
    changed.Distinct := by
  rw [Entries.insert] at hinsert
  split at hinsert
  · cases hinsert
  split at hinsert
  · next hlookup =>
    cases hinsert
    exact h.append (notMem_keys_of_lookup hlookup) (.value hvalue)
  · cases hinsert

theorem Distinct.put {parts : List String} {value : Value} {changed : Entries}
    (h : entries.Distinct) (hvalue : value.Distinct)
    (hput : Entries.put parts value entries = some changed) : changed.Distinct := by
  rw [Entries.put] at hput
  split at hput
  · cases hput
  · exact h.descend (fun _ _ _ hbelow hinsert => hbelow.insert hvalue hinsert) hput

theorem Distinct.openTable {parts : List String} {changed : Entries} (h : entries.Distinct)
    (hopen : Entries.openTable parts entries = some changed) : changed.Distinct := by
  rw [Entries.openTable] at hopen
  split at hopen
  · cases hopen
  refine h.descend (fun _ below changed hbelow hchange => ?_) hopen
  split at hchange
  · next hlookup =>
    cases hchange
    exact hbelow.append (notMem_keys_of_lookup hlookup) (distinct_nil.table _)
  · next hlookup =>
    cases hchange
    have hold := Distinct.of_table (hbelow.slot_of_lookup hlookup)
    exact (hbelow.remove _).append (notMem_keys_remove _ _) (hold.table _)
  · cases hchange

theorem Distinct.openElement {parts : List String} {changed : Entries} (h : entries.Distinct)
    (hopen : Entries.openElement parts entries = some changed) : changed.Distinct := by
  rw [Entries.openElement] at hopen
  split at hopen
  · cases hopen
  refine h.descend (fun _ below changed hbelow hchange => ?_) hopen
  split at hchange
  · next hlookup =>
    cases hchange
    refine hbelow.append (notMem_keys_of_lookup hlookup) (distinct_tables fun element member => ?_)
    rw [List.mem_singleton.mp member]
    exact distinct_nil
  · next hlookup =>
    cases hchange
    refine hbelow.replace (distinct_tables fun element member => ?_)
    rcases List.mem_append.mp member with hold | hnew
    · exact Distinct.of_tables (hbelow.slot_of_lookup hlookup) element hold
    · rw [List.mem_singleton.mp hnew]
      exact distinct_nil
  · cases hchange

end Entries

section Finish

theorem toTable_eq_map (entries : Entries) :
    Slot.toTable entries = entries.map fun entry => (entry.1, entry.2.toValue) := by
  induction entries with
  | nil => rw [Slot.toTable, List.map_nil]
  | cons entry rest ih => rw [Slot.toTable, ih, List.map_cons]

theorem toTables_eq_map (elements : List Entries) :
    Slot.toTables elements = elements.map fun entries => .table (Slot.toTable entries) := by
  induction elements with
  | nil => rw [Slot.toTables, List.map_nil]
  | cons entries rest ih => rw [Slot.toTables, ih, List.map_cons]

/-- Finishing a table leaves its keys as they are. -/
theorem keys_toTable (entries : Entries) :
    (Slot.toTable entries).map Prod.fst = entries.map Prod.fst := by
  rw [toTable_eq_map, List.map_map]
  rfl

theorem distinct_toTable {entries : Entries} (hkeys : HasDistinctKeys entries)
    (hslots : ∀ entry ∈ entries, entry.2.toValue.Distinct) :
    (Value.table (Slot.toTable entries)).Distinct := by
  refine .table ?_ ?_
  · rw [HasDistinctKeys, keys_toTable]
    exact hkeys
  · intro entry member
    rw [toTable_eq_map] at member
    obtain ⟨old, hold, rfl⟩ := List.mem_map.mp member
    exact hslots old hold

theorem Slot.Distinct.toValue {slot : Slot} (h : slot.Distinct) : slot.toValue.Distinct := by
  induction h with
  | value hvalue =>
    rw [Slot.toValue]
    exact hvalue
  | table hkeys _ ih =>
    rw [Slot.toValue]
    exact distinct_toTable hkeys ih
  | tables hkeys _ ih =>
    rw [Slot.toValue, toTables_eq_map]
    refine .array fun item member => ?_
    obtain ⟨entries, hentries, rfl⟩ := List.mem_map.mp member
    exact distinct_toTable (hkeys entries hentries) (ih entries hentries)

theorem Entries.Distinct.toTable {entries : Entries} (h : entries.Distinct) :
    (Value.table (Slot.toTable entries)).Distinct :=
  distinct_toTable h.keys fun entry member => (h.slots entry member).toValue

end Finish

section Reading

/-- Whatever a reader of values reads has distinct keys in all its tables. -/
def ReadsDistinct (item : List Char → Option (Value × List Char)) : Prop :=
  ∀ s value rest, item s = some (value, rest) → value.Distinct

theorem distinct_of_integer? {n : Int} {value : Value} (h : integer? n = some value) :
    value.Distinct := by
  rw [integer?] at h
  split at h
  · cases h
    exact .integer n
  · cases h

theorem distinct_of_float? {negative : Bool} {digits : Nat} {exponent : Int} {value : Value}
    (h : float? negative digits exponent = some value) : value.Distinct := by
  rw [float?] at h
  split at h
  · split at h
    · cases h
      exact .float _
    · cases h
  · cases h
    exact .float _

theorem readsDistinct_based? (base : Nat) : ReadsDistinct (based? base) := by
  intro s value rest h
  simp only [based?, Option.bind_eq_bind, Option.bind_eq_some_iff, Option.some.injEq,
    Prod.mk.injEq] at h
  obtain ⟨_, _, _, hinteger, rfl, _⟩ := h
  exact distinct_of_integer? hinteger

theorem readsDistinct_decimal? (negative : Bool) : ReadsDistinct (decimal? negative) := by
  intro s value rest h
  simp only [decimal?, Option.bind_eq_bind, Option.bind_eq_some_iff] at h
  obtain ⟨_, _, h⟩ := h
  split at h
  · simp only [Option.bind_eq_some_iff, Option.some.injEq, Prod.mk.injEq] at h
    obtain ⟨_, _, _, _, _, hfloat, rfl, _⟩ := h
    exact distinct_of_float? hfloat
  · simp only [Option.bind_eq_some_iff, Option.some.injEq, Prod.mk.injEq] at h
    obtain ⟨_, hinteger, rfl, _⟩ := h
    exact distinct_of_integer? hinteger

theorem readsDistinct_number? : ReadsDistinct number? := by
  intro s value rest h
  rw [number?.eq_def] at h
  split at h
  · exact readsDistinct_based? _ _ _ _ h
  · exact readsDistinct_based? _ _ _ _ h
  · exact readsDistinct_based? _ _ _ _ h
  · dsimp only at h
    split at h
    · cases h
      exact .float _
    · cases h
      exact .float _
    · exact readsDistinct_decimal? _ _ _ _ h

theorem readsDistinct_scalar : ReadsDistinct scalar := by
  intro s value rest h
  rw [scalar.eq_def] at h
  split at h
  · obtain ⟨read, -, hread⟩ := Option.map_eq_some_iff.mp h
    cases hread
    exact .string _
  · obtain ⟨read, -, hread⟩ := Option.map_eq_some_iff.mp h
    cases hread
    exact .string _
  · cases h
    exact .boolean _
  · cases h
    exact .boolean _
  · split at h
    · obtain ⟨read, -, hread⟩ := Option.map_eq_some_iff.mp h
      cases hread
      exact .datetime _
    · exact readsDistinct_number? _ _ _ h

variable {item : List Char → Option (Value × List Char)}

theorem distinct_of_items? (hitem : ReadsDistinct item) {s rest : List Char} {values : List Value}
    (h : items? item s = some (values, rest)) : ∀ value ∈ values, value.Distinct := by
  fun_induction items? item s generalizing values rest with
  | case1 =>
    cases h
    simp
  | case2 s _ ih =>
    simp only [Option.bind_eq_bind, Option.bind_eq_some_iff] at h
    obtain ⟨⟨first, after⟩, hfirst, h⟩ := h
    have hdistinct := hitem _ _ _ hfirst
    split at h
    · cases h
      simpa using hdistinct
    · split at h
      · next hshort =>
        simp only [Option.bind_eq_some_iff, Option.some.injEq, Prod.mk.injEq] at h
        obtain ⟨⟨others, _⟩, hothers, rfl, rfl⟩ := h
        exact List.forall_mem_cons.mpr ⟨hdistinct, ih _ hshort hothers⟩
      · cases h
    · cases h

theorem distinct_of_pairs? (hitem : ReadsDistinct item) {s rest : List Char}
    {pairs : List (List String × Value)} (h : pairs? item s = some (pairs, rest)) :
    ∀ pair ∈ pairs, pair.2.Distinct := by
  fun_induction pairs? item s generalizing pairs rest with
  | case1 s ih =>
    simp only [Option.bind_eq_bind, Option.bind_eq_some_iff] at h
    obtain ⟨⟨key, _⟩, _, _, _, ⟨first, after⟩, hfirst, h⟩ := h
    have hdistinct := hitem _ _ _ hfirst
    split at h
    · cases h
      simpa using hdistinct
    · split at h
      · next hshort =>
        simp only [Option.bind_eq_some_iff, Option.some.injEq, Prod.mk.injEq] at h
        obtain ⟨⟨others, _⟩, hothers, rfl, rfl⟩ := h
        exact List.forall_mem_cons.mpr ⟨hdistinct, ih _ hshort hothers⟩
      · cases h
    · cases h

/-- Putting values into a table one after the other keeps its keys distinct. -/
theorem Entries.Distinct.of_foldlM {pairs : List (List String × Value)} {entries changed : Entries}
    (h : entries.Distinct) (hpairs : ∀ pair ∈ pairs, pair.2.Distinct)
    (hfold : pairs.foldlM (fun entries pair => Entries.put pair.1 pair.2 entries) entries =
      some changed) : changed.Distinct := by
  induction pairs generalizing entries with
  | nil =>
    cases hfold
    exact h
  | cons pair rest ih =>
    simp only [List.foldlM_cons, Option.bind_eq_bind, Option.bind_eq_some_iff] at hfold
    obtain ⟨middle, hmiddle, hrest⟩ := hfold
    have hput := h.put (hpairs pair List.mem_cons_self) hmiddle
    exact ih hput (fun other member => hpairs other (List.mem_cons_of_mem _ member)) hrest

theorem readsDistinct_inlineTable? (hitem : ReadsDistinct item) :
    ReadsDistinct (inlineTable? item) := by
  intro s value rest h
  rw [inlineTable?] at h
  split at h
  · cases h
    exact .table List.nodup_nil (by simp)
  · simp only [Option.bind_eq_bind, Option.bind_eq_some_iff, Option.some.injEq,
      Prod.mk.injEq] at h
    obtain ⟨⟨pairs, _⟩, hpairs, entries, hfold, rfl, -⟩ := h
    exact (Entries.distinct_nil.of_foldlM (distinct_of_pairs? hitem hpairs) hfold).toTable

/-- The induction is on the depth that is left for arrays and inline tables. -/
theorem readsDistinct_value? (depth : Nat) : ReadsDistinct (value? depth) := by
  induction depth with
  | zero =>
    intro s value rest h
    rw [value?.eq_3 _ _ (by simp) (by simp)] at h
    exact readsDistinct_scalar _ _ _ h
  | succ depth ih =>
    intro s value rest h
    rw [value?.eq_def] at h
    split at h
    · next hdepth =>
      cases hdepth
      obtain ⟨read, hitems, hread⟩ := Option.map_eq_some_iff.mp h
      cases hread
      exact .array (distinct_of_items? ih hitems)
    · next hdepth =>
      cases hdepth
      exact readsDistinct_inlineTable? ih _ _ _ h
    · exact readsDistinct_scalar _ _ _ h

theorem distinct_of_statement? {reading next : Reading} {s rest : List Char}
    (h : reading.entries.Distinct) (hstatement : statement? reading s = some (next, rest)) :
    next.entries.Distinct := by
  rw [statement?.eq_def] at hstatement
  split at hstatement
  · simp only [Option.bind_eq_bind, Option.bind_eq_some_iff, Option.some.injEq,
      Prod.mk.injEq] at hstatement
    obtain ⟨_, _, _, _, _, _, entries, hopen, rfl, -⟩ := hstatement
    exact h.openElement hopen
  · simp only [Option.bind_eq_bind, Option.bind_eq_some_iff, Option.some.injEq,
      Prod.mk.injEq] at hstatement
    obtain ⟨_, _, _, _, entries, hopen, rfl, -⟩ := hstatement
    exact h.openTable hopen
  · simp only [Option.bind_eq_bind, Option.bind_eq_some_iff, Option.some.injEq,
      Prod.mk.injEq] at hstatement
    obtain ⟨_, _, _, _, ⟨value, _⟩, hvalue, _, _, entries, hdescend, rfl, -⟩ := hstatement
    have hdistinct := readsDistinct_value? _ _ _ _ hvalue
    exact h.descend (fun _ _ _ hbelow hput => hbelow.put hdistinct hput) hdescend

/-- What a statement keeps, a whole document keeps. -/
theorem distinct_of_statements? {reading last : Reading} {s : List Char}
    (h : reading.entries.Distinct) (hstatements : statements? reading s = some last) :
    last.entries.Distinct := by
  fun_induction statements? reading s with
  | case1 reading s _ =>
    cases hstatements
    exact h
  | case2 reading s rest hshort _ _ _ ih => exact ih h hstatements
  | case3 => cases hstatements
  | case4 => cases hstatements
  | case5 reading s next rest hshort _ _ hstatement ih =>
    exact ih (distinct_of_statement? h hstatement) hstatements
  | case6 => cases hstatements
  | case7 => cases hstatements

/-- In the table of a document and in every table within it, all keys are distinct. -/
theorem parse?_distinct {text : String} {table : Table} (h : parse? text = some table) :
    (Value.table table).Distinct := by
  obtain ⟨last, hlast, rfl⟩ := Option.map_eq_some_iff.mp h
  exact (distinct_of_statements? Entries.distinct_nil hlast).toTable

end Reading

end SizeGate.Toml
