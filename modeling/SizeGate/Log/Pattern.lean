import SizeGate.Log.Pattern.Bracket

/-!
Patterns for the values of fields.

A directive may ask that a field have a value of a given form. No field of an event is ever held
against a pattern, so all that matters is whether a pattern can be read: a value that is a truth
value or a number always can, and any other has to be a regular expression.

An expression is a choice between sequences of parts, and a part may be repeated. Groups hold an
expression again, with a name or with flags of their own; flags by themselves hold up to the end of
the group they stand in. A counted repetition cannot occur, since its brace would end the field
that the expression belongs to. A choice, a sequence of several parts, a repetition, a group and
brackets each nest by one more than the deepest of what they hold, and there is a limit to that.
-/

namespace SizeGate.Log.Pattern

def nestingLimit : Nat := 250

structure Part where
  depth : Nat
  /-- Whether a repetition may follow. Flags are no part that could be repeated. -/
  repeatable : Bool := true
deriving DecidableEq

/-- How deep a choice nests between some sequences and a last one. -/
def chosen (sequences : List Nat) (last : List Part) : Nat :=
  let depth := joined (last.map Part.depth)
  if sequences = [] then depth else sequences.foldl max depth + 1

/-- What the marks after an opening parenthesis make of it. -/
inductive Opening where
  /-- A group: the mode within it, and its name if it has one. -/
  | group (mode : Mode) (name : Option (List Char)) (rest : List Char)
  /-- No group: the mode of what follows. -/
  | flags (mode : Mode) (rest : List Char)

/-- Reads flags up to the mark that ends them. A dash turns the flags after it off; none is given
twice, and there has to be one for flags by themselves. -/
def flags? (mode : Mode) (given : List Char) : List Char → Option Opening
  | [] => none
  | c :: rest =>
    if c = ':' then
      if given.head? = some '-' then none else some (.group mode none rest)
    else if c = ')' then
      if given = [] ∨ given.head? = some '-' then none else some (.flags mode rest)
    else if c ∈ given then none
    else if c = '-' then flags? mode (c :: given) rest
    else if c ∈ ['i', 'm', 's', 'U', 'u', 'R', 'x'] then
      flags? (mode.set c ('-' ∉ given)) (c :: given) rest
    else none

def startsName (c : Char) : Bool :=
  c = '_' || Text.isAlphabetic c

def continuesName (c : Char) : Bool :=
  c = '_' || c = '.' || c = '[' || c = ']' || Text.isAlphanumeric c

def groupName? (mode : Mode) (s : List Char) : Option Opening :=
  let name := s.takeWhile continuesName
  match s.drop name.length with
  | '>' :: rest => if name.head?.any startsName then some (.group mode (some name) rest) else none
  | _ => none

def opening? (mode : Mode) (s : List Char) : Option Opening :=
  match mode.skip s with
  | '?' :: 'P' :: '<' :: rest => groupName? mode rest
  | '?' :: '<' :: rest => groupName? mode rest
  | '?' :: rest => flags? mode [] rest
  | rest => some (.group mode none rest)

/-- Reads a part that no other part belongs to, which starts with the given character. -/
def part? (mode : Mode) (c : Char) (rest : List Char) : Option (Part × List Char) :=
  if c = '[' then (brackets? mode rest).map fun read => ({ depth := read.1 }, read.2)
  else if c = '\\' then do
    let (escape, rest) ← escape? mode rest
    let admitted := match escape with
      | .char c isByte => mode.admitsChar c isByte
      | .oneOf negated => mode.admitsClass negated
      | .place ofWord => !(ofWord && mode.unicode)
    if admitted then some ({ depth := 0 }, rest) else none
  else if c = '.' then if mode.unicode then some ({ depth := 0 }, rest) else none
  else if c = '^' ∨ c = '$' then some ({ depth := 0 }, rest)
  else if c = '\x7b' then none
  else if mode.admitsChar c false then some ({ depth := 0 }, rest)
  else none

/-- Reads an expression up to the end or the parenthesis that closes its group, in at most so many
steps. It goes on from the names of groups, from the parts of its sequence, the last in front, and
from the sequences before it. Gives how deep it nests, and the names it goes out with. -/
def expression? : Nat → Mode → List (List Char) → List Part → List Nat → List Char →
    Option (Nat × List (List Char) × List Char)
  | 0, _, _, _, _, _ => none
  | steps + 1, mode, names, parts, sequences, s =>
    match mode.skip s with
    | [] => some (chosen sequences parts, names, [])
    | c :: rest =>
      if c = ')' then some (chosen sequences parts, names, ')' :: rest)
      else if c = '|' then
        expression? steps mode names [] (joined (parts.map Part.depth) :: sequences) rest
      else if c = '*' ∨ c = '+' ∨ c = '?' then
        match parts with
        | [] => none
        | part :: others =>
          let rest := if rest.head? = some '?' then rest.drop 1 else rest
          if part.repeatable then
            expression? steps mode names ({ depth := part.depth + 1 } :: others) sequences rest
          else none
      else if c = '(' then
        match opening? mode rest with
        | none => none
        | some (.flags mode rest) =>
          expression? steps mode names ({ depth := 0, repeatable := false } :: parts) sequences rest
        | some (.group inner name rest) =>
          if name.any (· ∈ names) then none
          else
            match expression? steps inner (name.toList ++ names) [] [] rest with
            | some (depth, names, ')' :: rest) =>
              expression? steps mode names ({ depth := depth + 1 } :: parts) sequences rest
            | _ => none
      else
        match part? mode c rest with
        | some (part, rest) => expression? steps mode names (part :: parts) sequences rest
        | none => none

def isExpression (text : List Char) : Bool :=
  match expression? (text.length + 1) {} [] [] [] text with
  | some (depth, _, []) => depth ≤ nestingLimit
  | _ => false

/-- Whether digits stand here, with at most one point between or beside them, up to the end or an
exponent. -/
def isDecimal (text : List Char) : Bool :=
  let whole := text.takeWhile Char.isDigit
  let afterWhole := text.drop whole.length
  let fraction := if afterWhole.head? = some '.' then (afterWhole.drop 1).takeWhile Char.isDigit
    else []
  let rest := if afterWhole.head? = some '.' then afterWhole.drop (1 + fraction.length)
    else afterWhole
  (whole ≠ [] || fraction ≠ []) &&
    match rest with
    | [] => true
    | mark :: exponent =>
      let digits := if exponent.head? = some '+' ∨ exponent.head? = some '-' then exponent.drop 1
        else exponent
      (mark = 'e' || mark = 'E') && digits ≠ [] && digits.all Char.isDigit

def isNumber (text : List Char) : Bool :=
  let word := String.ofList (text.map Char.toLower)
  word = "inf" || word = "infinity" || word = "nan" || isDecimal text

/-- Whether a value can be read as a pattern. Every number without a plus in front is a regular
expression too, and so is every truth value. -/
def isReadable (value : List Char) : Bool :=
  (value.head? = some '+' && isNumber (value.drop 1)) || isExpression value

end SizeGate.Log.Pattern
