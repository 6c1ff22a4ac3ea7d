import Mathlib.Data.List.Forall2
import SizeGate.Proofs.Toml.Keys

/-!
Values that differ in the order of their entries only.

The entries of a table stand in the order of the document. `Value.Reordered` forgets that order, at
every depth. Main statement: if no key stands twice, a key finds in both tables the same but for
such an order again (`Value.Reordered.lookup`).
-/

namespace SizeGate.Toml

/-- The same value but for the order in which tables give their entries. -/
inductive Value.Reordered : Value → Value → Prop where
  | same (value : Value) : Reordered value value
  | array {items others : List Value} : List.Forall₂ Reordered items others →
      Reordered (.array items) (.array others)
  | table {entries between others : Table} : entries.Perm between →
      between.map Prod.fst = others.map Prod.fst →
      List.Forall₂ Reordered (between.map Prod.snd) (others.map Prod.snd) →
      Reordered (.table entries) (.table others)

section Lookup

variable {α : Type} {entries others : List (String × α)}

theorem lookup_of_mem (hkeys : HasDistinctKeys entries) {entry : String × α}
    (member : entry ∈ entries) : entries.lookup entry.1 = some entry.2 := by
  induction entries with
  | nil => cases member
  | cons first rest ih =>
    obtain ⟨hfirst, hrest⟩ := List.nodup_cons.mp hkeys
    rcases List.mem_cons.mp member with rfl | hentry
    · exact List.lookup_cons_self
    · have hne : (entry.1 == first.1) = false := by
        rw [beq_eq_false_iff_ne]
        intro heq
        exact hfirst (heq ▸ List.mem_map_of_mem hentry)
      rw [List.lookup_cons, hne]
      exact ih hrest hentry

/-- Where no key stands twice, it does not matter where it stands. -/
theorem lookup_perm (hkeys : HasDistinctKeys entries) (h : entries.Perm others) (key : String) :
    entries.lookup key = others.lookup key := by
  have hothers : HasDistinctKeys others := (h.map Prod.fst).nodup hkeys
  cases hlookup : others.lookup key with
  | none =>
    rw [List.lookup_eq_none_iff] at hlookup ⊢
    exact fun entry member => hlookup entry (h.mem_iff.mp member)
  | some value => exact lookup_of_mem hkeys (h.mem_iff.mpr (mem_of_lookup hlookup))

theorem lookup_rel {R : α → α → Prop} (hkeys : entries.map Prod.fst = others.map Prod.fst)
    (hvalues : List.Forall₂ R (entries.map Prod.snd) (others.map Prod.snd)) (key : String) :
    Option.Rel R (entries.lookup key) (others.lookup key) := by
  induction entries generalizing others with
  | nil =>
    cases others with
    | nil => exact .none
    | cons other others => cases hkeys
  | cons entry entries ih =>
    cases others with
    | nil => cases hkeys
    | cons other others =>
      obtain ⟨hkey, hkeys⟩ := List.cons.inj hkeys
      obtain ⟨hvalue, hvalues⟩ := List.forall₂_cons.mp hvalues
      rw [List.lookup_cons, List.lookup_cons, ← hkey]
      split
      · exact .some hvalue
      · exact ih hkeys hvalues

end Lookup

namespace Value.Reordered

variable {entries others : Table}

theorem keys_perm (h : Reordered (.table entries) (.table others)) :
    (entries.map Prod.fst).Perm (others.map Prod.fst) := by
  cases h with
  | same => exact .refl _
  | table hperm hkeys _ =>
    rw [← hkeys]
    exact hperm.map Prod.fst

theorem lookup (h : Reordered (.table entries) (.table others)) (hkeys : HasDistinctKeys entries)
    (key : String) : Option.Rel Reordered (entries.lookup key) (others.lookup key) := by
  cases h with
  | same =>
    cases entries.lookup key with
    | none => exact .none
    | some value => exact .some (.same value)
  | table hperm hsame hvalues =>
    rw [lookup_perm hkeys hperm]
    exact lookup_rel hsame hvalues key

end Value.Reordered

end SizeGate.Toml
