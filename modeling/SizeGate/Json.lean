import SizeGate.Text.Numeral

/-!
JSON values, and how they are laid out for people: two blanks per level, one field on a line, and
only those characters escaped that a string cannot hold as they are.
-/

namespace SizeGate

/-- A JSON value, as far as reports need one. An object keeps its fields in order. -/
inductive Json where
  | string (text : String)
  | number (value : Int)
  | boolean (value : Bool)
  | object (fields : List (String × Json))

namespace Json

/-- How one character stands in a string: quote, backslash and the controls are escaped, the common
ones by a letter and the others by number. -/
def escapeChar (c : Char) : List Char :=
  if c = '"' then ['\\', '"']
  else if c = '\\' then ['\\', '\\']
  else if c = '\x08' then ['\\', 'b']
  else if c = '\x0c' then ['\\', 'f']
  else if c = '\n' then ['\\', 'n']
  else if c = '\r' then ['\\', 'r']
  else if c = '\t' then ['\\', 't']
  else if c.toNat < 0x20 then
    ['\\', 'u', '0', '0', Nat.digitChar (c.toNat / 16), Nat.digitChar (c.toNat % 16)]
  else [c]

def quote (text : String) : List Char :=
  '"' :: text.toList.flatMap escapeChar ++ ['"']

def indent (level : Nat) : List Char :=
  List.replicate (2 * level) ' '

mutual

def layout (level : Nat) : Json → List Char
  | .string text => quote text
  | .number value => (Decimal.ofInt value).toList
  | .boolean value => if value then "true".toList else "false".toList
  | .object [] => ['\x7b', '\x7d']
  | .object (first :: rest) =>
    '\x7b' :: '\n' :: layoutField (level + 1) first
      ++ layoutFields (level + 1) rest ++ '\n' :: indent level ++ ['\x7d']

def layoutField (level : Nat) : String × Json → List Char
  | (name, value) => indent level ++ quote name ++ ':' :: ' ' :: layout level value

def layoutFields (level : Nat) : List (String × Json) → List Char
  | [] => []
  | field :: rest => ',' :: '\n' :: layoutField level field ++ layoutFields level rest

end

/-- The value as text of several lines, without a final line end. -/
def pretty (value : Json) : String :=
  String.ofList (layout 0 value)

end Json

end SizeGate
