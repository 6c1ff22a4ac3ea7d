import SizeGate.Toml.Moment

/-!
Tables that stand for a date or a time.

A table whose first key is a reserved one is no table: it is the date or time that it holds under
that key as text. This goes for inline tables, sections and elements of arrays alike, wherever they
stand below the table of the document itself. What else such a table holds is dropped, or makes it
malformed, depending on who reads it. A value without the reserved key means what it says
(`Value.settle?_of_plain`).
-/

namespace SizeGate.Toml

/-- The key that makes a table stand for a moment if it comes first. -/
def momentKey : String := "$__toml_private_datetime"

/-- What becomes of the further entries of a table that stands for a moment. -/
inductive Surplus where
  | dropped
  | refused
deriving DecidableEq

def wholeMoment? (text : String) : Option Moment := do
  let (moment, rest) ← moment? text.toList
  if rest = [] then some moment else none

/-- The moment under the reserved key, which has to be given as text. -/
def Value.moment? : Value → Option Moment
  | .string text => wholeMoment? text
  | _ => none

mutual

/-- What a value means: the same with a moment for every table that stands for one. -/
def Value.settle? (surplus : Surplus) : Value → Option Value
  | .array items => (Value.settleItems? surplus items).map .array
  | .table [] => some (.table [])
  | .table ((key, value) :: rest) =>
    if key = momentKey then
      if surplus = .refused ∧ rest ≠ [] then none else value.moment?.map .datetime
    else do
      let first ← value.settle? surplus
      let others ← Value.settleEntries? surplus rest
      some (.table ((key, first) :: others))
  | other => some other

def Value.settleItems? (surplus : Surplus) : List Value → Option (List Value)
  | [] => some []
  | item :: rest => do
    let first ← item.settle? surplus
    let others ← Value.settleItems? surplus rest
    some (first :: others)

def Value.settleEntries? (surplus : Surplus) :
    List (String × Value) → Option (List (String × Value))
  | [] => some []
  | (key, value) :: rest => do
    let first ← value.settle? surplus
    let others ← Value.settleEntries? surplus rest
    some ((key, first) :: others)

end

mutual

/-- Whether no table within a value has the reserved key in front. -/
def Value.isPlain : Value → Bool
  | .array items => Value.arePlain items
  | .table [] => true
  | .table ((key, value) :: rest) =>
    key ≠ momentKey && value.isPlain && Value.arePlainEntries rest
  | _ => true

def Value.arePlain : List Value → Bool
  | [] => true
  | item :: rest => item.isPlain && Value.arePlain rest

def Value.arePlainEntries : List (String × Value) → Bool
  | [] => true
  | (_, value) :: rest => value.isPlain && Value.arePlainEntries rest

end

mutual

/-- A value without the reserved key in front of a table means what it says. -/
theorem Value.settle?_of_plain (surplus : Surplus) (value : Value) (h : value.isPlain = true) :
    value.settle? surplus = some value := by
  match value with
  | .string _ | .integer _ | .float _ | .boolean _ | .datetime _ | .table [] =>
    simp only [Value.settle?]
  | .array items =>
    rw [Value.isPlain] at h
    rw [Value.settle?, Value.settleItems?_of_plain surplus items h, Option.map_some]
  | .table ((key, first) :: rest) =>
    simp only [Value.isPlain, Bool.and_eq_true, decide_eq_true_eq] at h
    rw [Value.settle?, if_neg h.1.1, Value.settle?_of_plain surplus first h.1.2,
      Value.settleEntries?_of_plain surplus rest h.2]
    rfl

theorem Value.settleItems?_of_plain (surplus : Surplus) (items : List Value)
    (h : Value.arePlain items = true) : Value.settleItems? surplus items = some items := by
  match items with
  | [] => rfl
  | item :: rest =>
    simp only [Value.arePlain, Bool.and_eq_true] at h
    rw [Value.settleItems?, Value.settle?_of_plain surplus item h.1,
      Value.settleItems?_of_plain surplus rest h.2]
    rfl

theorem Value.settleEntries?_of_plain (surplus : Surplus) (entries : List (String × Value))
    (h : Value.arePlainEntries entries = true) :
    Value.settleEntries? surplus entries = some entries := by
  match entries with
  | [] => rfl
  | (key, value) :: rest =>
    simp only [Value.arePlainEntries, Bool.and_eq_true] at h
    rw [Value.settleEntries?, Value.settle?_of_plain surplus value h.1,
      Value.settleEntries?_of_plain surplus rest h.2]
    rfl

end

theorem Value.isPlain_of_lookup {entries : List (String × Value)} {key : String} {value : Value}
    (h : Value.arePlainEntries entries = true) (hlookup : entries.lookup key = some value) :
    value.isPlain = true := by
  induction entries with
  | nil => cases hlookup
  | cons first rest ih =>
    simp only [Value.arePlainEntries, Bool.and_eq_true] at h
    rw [List.lookup_cons] at hlookup
    split at hlookup
    · cases hlookup
      exact h.1
    · exact ih h.2 hlookup

end SizeGate.Toml
