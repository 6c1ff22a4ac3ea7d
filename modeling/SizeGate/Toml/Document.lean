import SizeGate.Toml.Assembly
import SizeGate.Toml.Moment
import SizeGate.Toml.Text

/-!
Reading a TOML 1.0 document.

A document is read statement by statement: a comment or blank line, a header, or a key with its
value, each up to the end of its line. `parse?` gives the table of a valid document and nothing for
any other text. One byte order mark in front is skipped.
-/

namespace SizeGate.Toml

/-- Reads the items of an array after its opening bracket, or after a comma. A comma may stand
before the closing bracket. -/
def items? (item : List Char → Option (Value × List Char)) (s : List Char) :
    Option (List Value × List Char) :=
  match dropFiller false s with
  | ']' :: rest => some ([], rest)
  | start => do
    let (value, after) ← item start
    match dropFiller false after with
    | ']' :: rest => some ([value], rest)
    | ',' :: rest =>
      if rest.length < s.length then
        let (values, rest) ← items? item rest
        some (value :: values, rest)
      else none
    | _ => none
termination_by s.length

/-- Reads the pairs of an inline table that is not empty, after its opening brace or a comma. -/
def pairs? (item : List Char → Option (Value × List Char)) (s : List Char) :
    Option (List (List String × Value) × List Char) := do
  let (key, afterKey) ← key? s
  let afterMark ← expect? '=' afterKey
  let (value, after) ← item (dropBlanks afterMark)
  match dropBlanks after with
  | '\x7d' :: rest => some ([(key, value)], rest)
  | ',' :: rest =>
    if rest.length < s.length then
      let (pairs, rest) ← pairs? item rest
      some ((key, value) :: pairs, rest)
    else none
  | _ => none
termination_by s.length

/-- Reads an inline table after its opening brace. Its keys follow the same rules as those of a
table in a document. -/
def inlineTable? (item : List Char → Option (Value × List Char)) (s : List Char) :
    Option (Value × List Char) :=
  match dropBlanks s with
  | '\x7d' :: rest => some (.table [], rest)
  | start => do
    let (pairs, rest) ← pairs? item start
    let entries ← pairs.foldlM (fun entries pair => Entries.put pair.1 pair.2 entries) []
    some (.table (Slot.toTable entries), rest)

def scalar (s : List Char) : Option (Value × List Char) :=
  match s with
  | '"' :: _ | '\x27' :: _ => (text? s).map fun read => (.string read.1, read.2)
  | 't' :: 'r' :: 'u' :: 'e' :: rest => some (.boolean true, rest)
  | 'f' :: 'a' :: 'l' :: 's' :: 'e' :: rest => some (.boolean false, rest)
  | _ =>
    if startsMoment s then (moment? s).map fun read => (.datetime read.1, read.2)
    else number? s

/-- Reads a value in which arrays and inline tables nest at most so deep. -/
def value? : Nat → List Char → Option (Value × List Char)
  | depth + 1, '[' :: rest => (items? (value? depth) rest).map fun read => (.array read.1, read.2)
  | depth + 1, '\x7b' :: rest => inlineTable? (value? depth) rest
  | _, s => scalar s

/-- A document read so far: its table, and the path of the table that keys are added to. -/
structure Reading where
  entries : Entries
  path : List String

/-- Reads a header up to its closing bracket, given what follows the opening one. -/
def header? (s : List Char) : Option (List String × List Char) := do
  let (parts, rest) ← key? s
  let rest ← expect? ']' rest
  some (parts, rest)

/-- Reads one statement, not blank, up to the end of its line. -/
def statement? (reading : Reading) (s : List Char) : Option (Reading × List Char) :=
  match s with
  | '[' :: '[' :: rest => do
    let (parts, rest) ← header? rest
    let rest ← expect? ']' rest
    let rest ← lineEnd? rest
    let entries ← reading.entries.openElement parts
    some (⟨entries, parts⟩, rest)
  | '[' :: rest => do
    let (parts, rest) ← header? rest
    let rest ← lineEnd? rest
    let entries ← reading.entries.openTable parts
    some (⟨entries, parts⟩, rest)
  | _ => do
    let (parts, rest) ← key? s
    let rest ← expect? '=' rest
    let (value, rest) ← value? (depthLimit - 1) (dropBlanks rest)
    let rest ← lineEnd? rest
    let entries ← Entries.descend false (fun _ => Entries.put parts value) reading.path .header
      reading.entries
    some (⟨entries, reading.path⟩, rest)

def startsLineEnd (s : List Char) : Bool :=
  s.head? = some '#' || s.head? = some '\n' || s.head? = some '\x0d'

def statements? (reading : Reading) (s : List Char) : Option Reading :=
  match dropBlanks s with
  | [] => some reading
  | start =>
    if startsLineEnd start then
      match lineEnd? start with
      | some rest => if rest.length < s.length then statements? reading rest else none
      | none => none
    else
      match statement? reading start with
      | some (reading, rest) => if rest.length < s.length then statements? reading rest else none
      | none => none
termination_by s.length

def dropMark : List Char → List Char
  | '\uFEFF' :: rest => rest
  | s => s

def parse? (text : String) : Option Table :=
  (statements? ⟨[], []⟩ (dropMark text.toList)).map fun reading => Slot.toTable reading.entries

end SizeGate.Toml
