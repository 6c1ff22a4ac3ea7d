import SizeGate.Environment
import SizeGate.Log.Event
import SizeGate.Log.Pattern

/-!
Which events are logged.

A filter is a comma-separated list of directives. A level alone is a default, `target=level` holds
for the targets that start so, and a word that is no level is a target with everything in it. In
brackets behind the target a directive may name a span and, in braces, one field with or without a
pattern for its value. Nothing happens within a span here, so a directive with a span or a pattern
is read and has no effect; one with a field alone covers the events that have it. Of the directives
that cover an event the one with the longest target counts, then one with a field, then the last. A
filter with a mistake anywhere logs nothing.
-/

namespace SizeGate.Log

inductive Level where
  | off | error | warn | info | debug | trace
deriving DecidableEq

namespace Level

def rank : Level → Nat
  | .off => 0
  | .error => 1
  | .warn => 2
  | .info => 3
  | .debug => 4
  | .trace => 5

def ofRank? : Nat → Option Level
  | 0 => some .off
  | 1 => some .error
  | 2 => some .warn
  | 3 => some .info
  | 4 => some .debug
  | 5 => some .trace
  | _ => none

/-- A number in decimal digits, which may have a plus in front. -/
def natural? (text : List Char) : Option Nat :=
  let digits := if text.head? = some '+' then text.drop 1 else text
  if digits ≠ [] ∧ digits.all Char.isDigit then some (Nat.ofDigitChars 10 digits 0) else none

/-- The level of a name, in any case of its letters, or of a rank. -/
def ofText? (text : List Char) : Option Level :=
  match natural? text with
  | some rank => ofRank? rank
  | none =>
    match String.ofList (text.map Char.toLower) with
    | "off" => some .off
    | "error" => some .error
    | "warn" => some .warn
    | "info" => some .info
    | "debug" => some .debug
    | "trace" => some .trace
    | _ => none

end Level

structure Field where
  name : Bytes
  /-- Whether its value has to be of a given form. -/
  hasPattern : Bool
deriving DecidableEq

def equals : UInt8 := 0x3D

/-- Reads a field and its pattern. What follows a second equals sign does not count. -/
def Field.parse? (text : Bytes) : Option Field :=
  let name := text.takeWhile (· ≠ equals)
  match text.drop name.length with
  | [] => if text = [] then none else some ⟨name, false⟩
  | _ :: rest => do
    let pattern ← Utf8.decode? (rest.takeWhile (· ≠ equals))
    if Pattern.isReadable pattern.toList then some ⟨name, true⟩ else none

/-- A level for the events of the targets that start with a given text. -/
structure Directive where
  target : Bytes := []
  /-- Whether it holds only within a span. -/
  spanned : Bool := false
  field : Option Field := none
  level : Level := .trace
deriving DecidableEq

/-- Which part of a directive is being read, and at which byte it started. -/
inductive Part where
  | start
  /-- A level or a target. -/
  | word (first : Nat)
  | span (first : Nat)
  | field (first : Nat)
  /-- Behind a field, up to the bracket. -/
  | fieldEnd
  /-- Behind the bracket. -/
  | bracketEnd
  | level (first : Nat)
deriving DecidableEq

namespace Directive

def isStart (c : Char) : Bool :=
  c = '-' || c = ':' || c = '_' || Text.isAlphanumeric c

def slice (text : Bytes) (first last : Nat) : Bytes :=
  (text.take last).drop first

/-- Reads one more character, which is at the given place. The words of the directive are cut from
`text`. -/
def step? (text : Bytes) (place : Nat) (c : Char) :
    Directive × Part → Option (Directive × Part)
  | (directive, .start) =>
    if c = '[' then some (directive, .span (place + 1))
    else if isStart c then some (directive, .word place)
    else none
  | (directive, .word first) =>
    if c = '=' then some ({ directive with target := slice text first place }, .level (place + 1))
    else if c = '[' then
      some ({ directive with target := slice text first place }, .span (place + 1))
    else some (directive, .word first)
  | (directive, .span first) =>
    if c = ']' then some ({ directive with spanned := true }, .bracketEnd)
    else if c = '\x7b' then
      some ({ directive with spanned := slice text first place ≠ [] }, .field (place + 1))
    else some (directive, .span first)
  | (directive, .field first) =>
    if c = '\x7d' then do
      let field ← Field.parse? (slice text first place)
      some ({ directive with field := some field }, .fieldEnd)
    else some (directive, .field first)
  | (directive, .fieldEnd) => if c = ']' then some (directive, .bracketEnd) else none
  | (directive, .bracketEnd) => if c = '=' then some (directive, .level (place + 1)) else none
  | (directive, .level first) => some (directive, .level first)

def steps? (text : Bytes) (place : Nat) : List Char → Directive × Part → Option (Directive × Part)
  | [], read => some read
  | c :: rest, read => do
    let read ← step? text place c read
    steps? text (place + c.utf8Size) rest read

/-- Completes a directive with the part that is read when it ends. -/
def finish? (text : Bytes) : Directive × Part → Option Directive
  | (directive, .word first) =>
    let word := text.drop first
    match (Utf8.decode? word).bind fun word => Level.ofText? word.toList with
    | some level => some { directive with level }
    | none => some { directive with target := word }
  | (directive, .level first) => do
    let word := text.drop first
    if word = [] then some directive
    else
      let level ← Level.ofText? (← Utf8.decode? word).toList
      some { directive with level }
  | (directive, .bracketEnd) => some directive
  | _ => none

/-- Reads a directive. Blanks around it are skipped where its parts are told apart. Its words are
cut from the text with the blanks, at the places counted without: blanks behind a word belong to it,
and blanks in front push every word out of place. -/
def parse? (text : List Char) : Option Directive := do
  let read ← steps? (Utf8.encode text) 0 (Text.trim text) ({}, .start)
  finish? (Utf8.encode text) read

/-- The one field that events have. -/
def messageField : Bytes :=
  Utf8.encode "message".toList

def covers (directive : Directive) (target : String) : Bool :=
  !directive.spanned
    && directive.field.all (fun field => !field.hasPattern && field.name = messageField)
    && directive.target.isPrefixOf (Utf8.encode target.toList)

def isAsSpecificAs (directive other : Directive) : Bool :=
  other.target.length < directive.target.length
    || (other.target.length = directive.target.length
      && (directive.field.isSome || other.field.isNone))

end Directive

def splitCommas : List Char → List (List Char)
  | [] => [[]]
  | c :: rest =>
    if c = ',' then [] :: splitCommas rest
    else match splitCommas rest with
      | [] => [[c]]
      | first :: others => (c :: first) :: others

/-- The directives of a filter, or none if there is no filter or a mistake in it. -/
def directives (setting : Option Bytes) : List Directive :=
  let parsed := do
    let text ← Utf8.decode? (← setting)
    ((splitCommas text.toList).filter (· ≠ [])).mapM Directive.parse?
  parsed.getD []

/-- The more specific of the directives that cover the events of a target, the last of equals. -/
def directiveFor (target : String) (directives : List Directive) : Option Directive :=
  (directives.filter (·.covers target)).foldl (fun best directive =>
    if best.all directive.isAsSpecificAs then some directive else best) none

/-- The level that directives set for the events of a target: nothing, if none covers them. -/
def levelFor (target : String) (directives : List Directive) : Level :=
  ((directiveFor target directives).map Directive.level).getD .off

structure Logging where
  directives : List Directive
  styled : Bool

namespace Logging

/-- The logging that the environment asks for. Lines are styled unless `NO_COLOR` is set to some
text. -/
def ofEnvironment (env : Environment) : Logging where
  directives := Log.directives env.log
  styled := (env.noColor.bind Utf8.decode?).all (· = "")

/-- Whether an event is logged. All events are at level `debug`. -/
def admits (logging : Logging) (event : Event) : Bool :=
  Level.debug.rank ≤ (levelFor event.target logging.directives).rank

end Logging

end SizeGate.Log
