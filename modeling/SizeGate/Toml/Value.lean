/-!
The values of a TOML document.

A table keeps its entries in the order in which the document gives them; no key stands twice.
-/

namespace SizeGate.Toml

/-- A floating-point literal: the decimal it spells, `digits * 10 ^ exponent`, or a special
value. -/
inductive Real where
  | finite (negative : Bool) (digits : Nat) (exponent : Int)
  | infinite (negative : Bool)
  | notANumber
deriving DecidableEq

structure Date where
  year : Nat
  month : Nat
  day : Nat
deriving DecidableEq

/-- A time of day. Second 60 is allowed; the fraction is kept digit by digit. -/
structure Time where
  hour : Nat
  minute : Nat
  second : Nat
  fraction : List Nat
deriving DecidableEq

/-- A date, a time of day, or both, with the offset from universal time in minutes if one is
given. -/
structure Moment where
  date : Option Date
  time : Option Time
  offset : Option Int
deriving DecidableEq

inductive Value where
  | string (text : String)
  | integer (value : Int)
  | float (value : Real)
  | boolean (value : Bool)
  | datetime (value : Moment)
  | array (items : List Value)
  | table (entries : List (String × Value))

/-- The entries of a table, each key once. -/
abbrev Table := List (String × Value)

def Value.typeName : Value → String
  | .string _ => "string"
  | .integer _ => "integer"
  | .float _ => "float"
  | .boolean _ => "boolean"
  | .datetime _ => "datetime"
  | .array _ => "array"
  | .table _ => "table"

/-- The keys of a table in ascending order of their bytes. Text compared character by character by
code point is in the order of its UTF-8 bytes. -/
def Table.sortedKeys (table : Table) : List String :=
  (table.map Prod.fst).mergeSort fun a b => a ≤ b

end SizeGate.Toml
