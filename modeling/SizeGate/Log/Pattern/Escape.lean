import SizeGate.Log.Pattern.Mode
import SizeGate.Text.Numeral

/-!
Escapes of a regular expression.

A backslash gives a letter a meaning of its own and takes that of a mark away. A letter without
such a meaning, a digit, or a character beyond ASCII makes no escape.
-/

namespace SizeGate.Log.Pattern

inductive Escape where
  | char (c : Char) (isByte : Bool)
  /-- Any character of a class with a letter for its name, or any other. -/
  | oneOf (negated : Bool)
  /-- An end of the text, or an edge of a word. -/
  | place (ofWord : Bool)
deriving DecidableEq

def hexDigits? (mode : Mode) : Nat → List Char → Option (List Nat × List Char)
  | 0, s => some ([], s)
  | count + 1, s =>
    match mode.skip s with
    | [] => none
    | c :: rest => do
      let digit ← Text.digitValue? 16 c
      let (digits, rest) ← hexDigits? mode count rest
      some (digit :: digits, rest)

/-- Reads so many hexadecimal digits that name a character. Two name a byte. -/
def hexEscape? (mode : Mode) (count : Nat) (s : List Char) : Option (Escape × List Char) := do
  let (digits, rest) ← hexDigits? mode count s
  let code := digits.foldl (fun value digit => value * 16 + digit) 0
  if code < 0xD800 ∨ 0xDFFF < code ∧ code < 0x110000 then
    some (.char (Char.ofNat code) (count = 2), rest)
  else none

def escape? (mode : Mode) : List Char → Option (Escape × List Char)
  | [] => none
  | c :: rest =>
    if c = 'x' then hexEscape? mode 2 rest
    else if c = 'u' then hexEscape? mode 4 rest
    else if c = 'U' then hexEscape? mode 8 rest
    else if c = 'd' ∨ c = 's' ∨ c = 'w' then some (.oneOf false, rest)
    else if c = 'D' ∨ c = 'S' ∨ c = 'W' then some (.oneOf true, rest)
    else if c = 'a' then some (.char '\x07' false, rest)
    else if c = 'f' then some (.char '\x0c' false, rest)
    else if c = 't' then some (.char '\t' false, rest)
    else if c = 'n' then some (.char '\n' false, rest)
    else if c = 'r' then some (.char '\x0d' false, rest)
    else if c = 'v' then some (.char '\x0b' false, rest)
    else if c = 'A' ∨ c = 'z' then some (.place false, rest)
    else if c = 'b' ∨ c = 'B' ∨ c = '<' ∨ c = '>' then some (.place true, rest)
    else if c.isAlphanum ∨ 0x80 ≤ c.toNat then none
    else some (.char c false, rest)

end SizeGate.Log.Pattern
