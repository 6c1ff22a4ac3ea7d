import SizeGate.Log.Pattern.Escape

/-!
Classes of characters in brackets.

Members stand one after the other: characters, ranges of them, named classes, and brackets again.
Two such lists are combined by a doubled mark, from left to right. What is read is how deep a class
nests, which is all that is asked of it later: brackets, a list of several members, and a
combination each add one to the deepest of what they hold.
-/

namespace SizeGate.Log.Pattern

/-- How deep a list nests whose members nest so deep. One member alone makes no list. -/
def joined : List Nat → Nat
  | [] => 0
  | [depth] => depth
  | depths => depths.foldl max 0 + 1

/-- How deep a list of members nests, combined with what stands before it. -/
def combined (before : Option Nat) (members : List Nat) : Nat :=
  match before with
  | none => joined members
  | some depth => max depth (joined members) + 1

def asciiClasses : List String :=
  ["alnum", "alpha", "ascii", "blank", "cntrl", "digit", "graph", "lower", "print", "punct",
   "space", "upper", "word", "xdigit"]

/-- Reads a class of ASCII characters after its bracket, and whether it is negated. -/
def asciiClass? (s : List Char) : Option (Bool × List Char) :=
  match s with
  | ':' :: rest =>
    let negated := rest.head? = some '^'
    let start := if negated then rest.drop 1 else rest
    let name := start.takeWhile (· ≠ ':')
    match start.drop name.length with
    | ':' :: ']' :: rest =>
      if String.ofList name ∈ asciiClasses then some (negated, rest) else none
    | _ => none
  | _ => none

/-- Reads an end of a range, or a member that is none. -/
def endpoint? (mode : Mode) : List Char → Option (Escape × List Char)
  | [] => none
  | '\\' :: rest => escape? mode rest
  | c :: rest => some (.char c false, rest)

def isMember (mode : Mode) : Escape → Bool
  | .char c _ => mode.admitsMember c
  | .oneOf negated => mode.admitsClass negated
  | .place _ => false

/-- Reads one member that is no class in brackets: a character, a class with a letter for its name,
or a range. A dash makes no range before the closing bracket or another dash. -/
def member? (mode : Mode) (s : List Char) : Option (List Char) := do
  let (first, rest) ← endpoint? mode s
  match mode.skip rest with
  | '-' :: rest =>
    let after := mode.afterDash? rest
    if after = some ']' ∨ after = some '-' then
      if isMember mode first then some ('-' :: rest) else none
    else
      let (last, rest) ← endpoint? mode (mode.skip rest)
      match first, last with
      | .char low _, .char high _ =>
        if low ≤ high ∧ mode.admitsMember low ∧ mode.admitsMember high then some rest else none
      | _, _ => none
  | rest => if isMember mode first then some rest else none

def negation (mode : Mode) (s : List Char) : Bool × List Char :=
  match mode.skip s with
  | '^' :: rest => (true, rest)
  | rest => (false, rest)

/-- Reads members up to the closing bracket, in at most so many steps, and gives how deep they
nest. At the start dashes stand for themselves, and so does a closing bracket that comes first. -/
def members? (mode : Mode) : Nat → Bool → Option Nat → List Nat → List Char →
    Option (Nat × List Char)
  | 0, _, _, _, _ => none
  | steps + 1, atStart, before, members, s =>
    match mode.skip s with
    | [] => none
    | c :: rest =>
      if atStart ∧ (c = '-' ∨ c = ']' ∧ members = []) then
        if mode.admitsMember c then members? mode steps (c = '-') before (0 :: members) rest
        else none
      else if c = ']' then some (combined before members, rest)
      else if c = '[' then
        match asciiClass? rest with
        | some (negated, rest) =>
          if mode.admitsAsciiClass negated then members? mode steps false before (0 :: members) rest
          else none
        | none =>
          let (negated, inside) := negation mode rest
          match members? mode steps true none [] inside with
          | some (depth, rest) =>
            if mode.admitsBrackets negated then
              members? mode steps false before ((depth + 1) :: members) rest
            else none
          | none => none
      else if (c = '&' ∨ c = '-' ∨ c = '~') ∧ rest.head? = some c then
        members? mode steps false (some (combined before members)) [] (rest.drop 1)
      else
        match member? mode (c :: rest) with
        | some rest => members? mode steps false before (0 :: members) rest
        | none => none

def brackets? (mode : Mode) (s : List Char) : Option (Nat × List Char) := do
  let (negated, inside) := negation mode s
  let (depth, rest) ← members? mode (inside.length + 1) true none [] inside
  if mode.admitsBrackets negated then some (depth + 1, rest) else none

end SizeGate.Log.Pattern
