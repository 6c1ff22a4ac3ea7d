import SizeGate.Toml.Value

/-!
Putting the statements of a TOML document together into one table.

A table can come about in three ways, and which one decides what may still be added to it: by a
header of its own, by standing on the way of another header, or by standing on the way of a dotted
key. No key is ever given twice, a header opens a table once, and a dotted key goes only through
tables that no header has opened.
-/

namespace SizeGate.Toml

inductive Origin where
  /-- By its own header, or as an element of an array of tables. -/
  | header
  /-- On the way of a header that names a table below it. -/
  | passed
  /-- On the way of a dotted key. -/
  | dotted
deriving DecidableEq

inductive Slot where
  /-- A finished value, inline tables and arrays included. -/
  | value (value : Value)
  /-- A table that may still grow. -/
  | table (origin : Origin) (entries : List (String × Slot))
  /-- An array of tables. Its last one may still grow. -/
  | tables (elements : List (List (String × Slot)))

/-- The entries of a table that may still grow, each key once. -/
abbrev Entries := List (String × Slot)

namespace Entries

def replace (entries : Entries) (key : String) (slot : Slot) : Entries :=
  entries.map fun entry => if entry.1 = key then (key, slot) else entry

/-- Makes a change to the table at the end of a path, which learns how that table came about.
Tables that are missing on the way are made. The last element stands for an array of tables. A
dotted key does not pass a table that a header has opened. -/
def descend (dotted : Bool) (change : Origin → Entries → Option Entries) :
    List String → Origin → Entries → Option Entries
  | [], origin, entries => change origin entries
  | key :: rest, _, entries =>
    match entries.lookup key with
    | none => do
      let origin := if dotted then .dotted else .passed
      let below ← descend dotted change rest origin []
      some (entries ++ [(key, .table origin below)])
    | some (.value _) => none
    | some (.table origin below) =>
      if dotted ∧ origin = .header then none
      else do
        let below ← descend dotted change rest origin below
        some (entries.replace key (.table origin below))
    | some (.tables elements) => do
      let last ← elements.getLast?
      let below ← descend dotted change rest .header last
      some (entries.replace key (.tables (elements.dropLast ++ [below])))

/-- Adds a value under a new key of a table. A dotted key must lead into a table that came about by
dotted keys, and a plain one must not. -/
def insert (dotted : Bool) (key : String) (value : Value) (origin : Origin) (entries : Entries) :
    Option Entries :=
  if dotted ∧ origin ≠ .dotted ∨ ¬dotted ∧ origin = .dotted then none
  else match entries.lookup key with
    | none => some (entries ++ [(key, .value value)])
    | some _ => none

def put (parts : List String) (value : Value) (entries : Entries) : Option Entries :=
  match parts.getLast? with
  | none => none
  | some key =>
    descend true (insert (1 < parts.length) key value) parts.dropLast .header entries

def remove (entries : Entries) (key : String) : Entries :=
  entries.filter fun entry => entry.1 ≠ key

/-- Opens a table by a header. One that has only been on the way of other headers so far takes its
place among the entries anew, behind all others. -/
def openTable (parts : List String) (entries : Entries) : Option Entries :=
  match parts.getLast? with
  | none => none
  | some key =>
    descend false (fun _ entries =>
      match entries.lookup key with
      | none => some (entries ++ [(key, .table .header [])])
      | some (.table .passed below) => some (entries.remove key ++ [(key, .table .header below)])
      | some _ => none) parts.dropLast .header entries

def openElement (parts : List String) (entries : Entries) : Option Entries :=
  match parts.getLast? with
  | none => none
  | some key =>
    descend false (fun _ entries =>
      match entries.lookup key with
      | none => some (entries ++ [(key, .tables [[]])])
      | some (.tables elements) => some (entries.replace key (.tables (elements ++ [[]])))
      | some _ => none) parts.dropLast .header entries

end Entries

mutual

def Slot.toValue : Slot → Value
  | .value finished => finished
  | .table _ entries => .table (Slot.toTable entries)
  | .tables elements => .array (Slot.toTables elements)

def Slot.toTable : List (String × Slot) → List (String × Value)
  | [] => []
  | (key, slot) :: rest => (key, slot.toValue) :: Slot.toTable rest

def Slot.toTables : List (List (String × Slot)) → List Value
  | [] => []
  | entries :: rest => .table (Slot.toTable entries) :: Slot.toTables rest

end

end SizeGate.Toml
