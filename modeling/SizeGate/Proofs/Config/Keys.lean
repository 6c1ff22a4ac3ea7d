import SizeGate.Proofs.Config.Document
import SizeGate.Proofs.Text.Utf8
import SizeGate.Proofs.Toml.Reordering

/-!
The keys of a document that a config does not know.

`Lists` says which keys of a table are reported and in which order, and there is only one way to do
so (`Lists.unique`). Main statements: no table of a document has a key twice, taken as it is meant
(`distinct_of_documents`), so the unknown keys of each are listed (`lists_unknownKeys`), and the
order of the document makes no difference to that (`unknownKeys_reordered`).
-/

namespace SizeGate

namespace Toml

variable {surplus : Surplus}

/-- What a table means has the keys of the table. -/
theorem keys_settleEntries? {entries meant : Table}
    (h : Value.settleEntries? surplus entries = some meant) :
    meant.map Prod.fst = entries.map Prod.fst := by
  induction entries generalizing meant with
  | nil =>
    cases h
    rfl
  | cons entry rest ih =>
    simp only [Value.settleEntries?, Option.bind_eq_bind, Option.bind_eq_some_iff] at h
    obtain ⟨value, _, others, hrest, hmeant⟩ := h
    cases hmeant
    rw [List.map_cons, List.map_cons, ih hrest]

mutual

theorem Value.Distinct.of_settle? {value meant : Value} (h : value.Distinct)
    (hsettle : value.settle? surplus = some meant) : meant.Distinct := by
  match value with
  | .string _ | .integer _ | .float _ | .boolean _ | .datetime _ | .table [] =>
    simp only [Value.settle?, Option.some.injEq] at hsettle
    exact hsettle ▸ h
  | .array items =>
    obtain ⟨settled, hitems, rfl⟩ := Option.map_eq_some_iff.mp hsettle
    cases h with
    | array hdistinct => exact .array (Value.distinct_of_settleItems? hdistinct hitems)
  | .table ((key, first) :: rest) =>
    cases h with
    | table hkeys hdistinct =>
      rw [Value.settle?] at hsettle
      split at hsettle
      · split at hsettle
        · cases hsettle
        · obtain ⟨moment, -, rfl⟩ := Option.map_eq_some_iff.mp hsettle
          exact .datetime moment
      · simp only [Option.bind_eq_bind, Option.bind_eq_some_iff, Option.some.injEq] at hsettle
        obtain ⟨settled, hfirst, others, hrest, rfl⟩ := hsettle
        refine .table ?_ (List.forall_mem_cons.mpr ⟨?_, ?_⟩)
        · rw [HasDistinctKeys, List.map_cons, keys_settleEntries? hrest]
          exact hkeys
        · exact Value.Distinct.of_settle? (hdistinct _ List.mem_cons_self) hfirst
        · exact Value.distinct_of_settleEntries?
            (fun entry member => hdistinct entry (List.mem_cons_of_mem _ member)) hrest

theorem Value.distinct_of_settleItems? {items meant : List Value}
    (h : ∀ item ∈ items, item.Distinct)
    (hsettle : Value.settleItems? surplus items = some meant) :
    ∀ item ∈ meant, item.Distinct := by
  match items with
  | [] =>
    cases hsettle
    simp
  | item :: rest =>
    simp only [Value.settleItems?, Option.bind_eq_bind, Option.bind_eq_some_iff,
      Option.some.injEq] at hsettle
    obtain ⟨settled, hitem, others, hrest, rfl⟩ := hsettle
    obtain ⟨hdistinct, hothers⟩ := List.forall_mem_cons.mp h
    exact List.forall_mem_cons.mpr
      ⟨Value.Distinct.of_settle? hdistinct hitem, Value.distinct_of_settleItems? hothers hrest⟩

theorem Value.distinct_of_settleEntries? {entries meant : Table}
    (h : ∀ entry ∈ entries, entry.2.Distinct)
    (hsettle : Value.settleEntries? surplus entries = some meant) :
    ∀ entry ∈ meant, entry.2.Distinct := by
  match entries with
  | [] =>
    cases hsettle
    simp
  | (key, value) :: rest =>
    simp only [Value.settleEntries?, Option.bind_eq_bind, Option.bind_eq_some_iff,
      Option.some.injEq] at hsettle
    obtain ⟨settled, hvalue, others, hrest, rfl⟩ := hsettle
    obtain ⟨hdistinct, hothers⟩ := List.forall_mem_cons.mp h
    exact List.forall_mem_cons.mpr
      ⟨Value.Distinct.of_settle? hdistinct hvalue, Value.distinct_of_settleEntries? hothers hrest⟩

end

/-- The keys of a table are sorted strictly, and by their bytes. -/
theorem Table.sortedKeys_ascending {table : Table} (h : HasDistinctKeys table) :
    table.sortedKeys.Pairwise fun key later =>
      Utf8.encode key.toList < Utf8.encode later.toList := by
  have hsorted : table.sortedKeys.Pairwise fun key later => decide (key ≤ later) = true := by
    refine List.pairwise_mergeSort (fun key middle later => ?_) (fun key later => ?_) _
    · simp only [decide_eq_true_eq]
      exact String.le_trans
    · simp only [Bool.or_eq_true, decide_eq_true_eq]
      exact String.le_total key later
  have hnodup : table.sortedKeys.Nodup := h.perm (List.mergeSort_perm _ _).symm
  refine (hsorted.and hnodup).imp ?_
  rintro key later ⟨hle, hne⟩
  have hlt : key < later := Std.lt_of_le_of_ne (of_decide_eq_true hle) hne
  exact Utf8.encode_lt_of_lt (String.lt_iff.mp hlt)

theorem Table.mem_sortedKeys_iff (table : Table) (key : String) :
    key ∈ table.sortedKeys ↔ key ∈ table.map Prod.fst :=
  (List.mergeSort_perm _ _).mem_iff

end Toml

namespace Config

open Toml (HasDistinctKeys)

/-- These are the keys of a table besides the known ones, each once, in ascending order of their
bytes. -/
structure Lists (known : List String) (table : Toml.Table) (keys : List String) : Prop where
  mem_iff : ∀ key, key ∈ keys ↔ key ∈ table.map Prod.fst ∧ key ∉ known
  ascending : keys.Pairwise fun key later => Utf8.encode key.toList < Utf8.encode later.toList

/-- Which keys there are and how they are ordered leaves no choice. -/
theorem Lists.unique {known : List String} {table : Toml.Table} {keys others : List String}
    (h : Lists known table keys) (hothers : Lists known table others) : keys = others := by
  have hsame : ∀ key, key ∈ keys ↔ key ∈ others := fun key => by
    rw [h.mem_iff, hothers.mem_iff]
  have hnodup : ∀ {list : List String}, (list.Pairwise fun key later =>
      Utf8.encode key.toList < Utf8.encode later.toList) → list.Nodup := by
    intro list hlist
    refine hlist.imp fun {key later} hlt => ?_
    rintro rfl
    exact List.lt_irrefl _ hlt
  refine List.Perm.eq_of_pairwise (fun _ _ _ _ hlt hgt => absurd hgt (List.lt_asymm hlt))
    h.ascending hothers.ascending ?_
  exact (List.perm_ext_iff_of_nodup (hnodup h.ascending) (hnodup hothers.ascending)).mpr hsame

theorem lists_unknownKeys {table : Toml.Table} (h : HasDistinctKeys table) (known : List String) :
    Lists known table (unknownKeys known table) where
  mem_iff key := by
    rw [unknownKeys, List.mem_filter, Toml.Table.mem_sortedKeys_iff, decide_eq_true_eq]
  ascending := (Toml.Table.sortedKeys_ascending h).sublist List.filter_sublist

/-- Capital letters come before small ones, and a known key is passed over. -/
example : unknownKeys ["path"] [("b", .integer 0), ("path", .integer 1), ("B", .integer 2)] =
    ["B", "b"] := by
  cbv

theorem unknownKeys_reordered {table other : Toml.Table}
    (h : Toml.Value.Reordered (.table table) (.table other)) (hkeys : HasDistinctKeys table)
    (known : List String) : unknownKeys known table = unknownKeys known other := by
  have hlists := lists_unknownKeys (h.keys_perm.nodup hkeys) known
  refine (lists_unknownKeys hkeys known).unique ⟨fun key => ?_, hlists.ascending⟩
  rw [hlists.mem_iff, h.keys_perm.mem_iff]

/-- What a document means has the keys of the document. -/
theorem keys_settle? {written table : Toml.Table} (h : settle? written = some table) :
    table.map Prod.fst = written.map Prod.fst := by
  induction written generalizing table with
  | nil =>
    cases h
    rfl
  | cons entry rest ih =>
    simp only [settle?, List.mapM_cons, Option.bind_eq_bind, Option.bind_eq_some_iff,
      Option.map_eq_some_iff] at h
    obtain ⟨_, ⟨meant, _, rfl⟩, others, hrest, htable⟩ := h
    cases htable
    rw [List.map_cons, List.map_cons, ih hrest]

theorem distinct_of_settle? {written table : Toml.Table}
    (h : ∀ entry ∈ written, entry.2.Distinct) (hsettle : settle? written = some table) :
    ∀ entry ∈ table, entry.2.Distinct := by
  induction written generalizing table with
  | nil =>
    cases hsettle
    simp
  | cons entry rest ih =>
    simp only [settle?, List.mapM_cons, Option.bind_eq_bind, Option.bind_eq_some_iff,
      Option.map_eq_some_iff] at hsettle
    obtain ⟨_, ⟨meant, hmeant, rfl⟩, others, hrest, htable⟩ := hsettle
    cases htable
    obtain ⟨hentry, hothers⟩ := List.forall_mem_cons.mp h
    exact List.forall_mem_cons.mpr ⟨hentry.of_settle? hmeant, ih hothers hrest⟩

theorem distinct_of_documents {text : String} {table : Toml.Table} (h : Documents text table) :
    (Toml.Value.table table).Distinct := by
  obtain ⟨written, hparse, hsettle⟩ := h
  cases Toml.parse?_distinct hparse with
  | table hkeys hdistinct =>
    refine .table ?_ (distinct_of_settle? hdistinct hsettle)
    rw [HasDistinctKeys, keys_settle? hsettle]
    exact hkeys

end Config

end SizeGate
