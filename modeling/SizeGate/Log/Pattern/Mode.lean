import SizeGate.Text.CharClass

/-!
The modes of a regular expression, and what may stand in each.

A regular expression is compiled to an automaton over bytes that has to match whole characters and
knows nothing about them but their code points. So where it matches characters it takes no class
that a table would have to define, no edge of a word, and no letters in either case. Where it
matches bytes it takes only what stays within ASCII: nothing that is negated, and not the dot.
-/

namespace SizeGate.Log.Pattern

structure Mode where
  /-- Whether blanks between the parts and comments do not count. -/
  verbose : Bool := false
  /-- Whether letters match in either case. -/
  caseless : Bool := false
  /-- Whether it matches characters, or else bytes. -/
  unicode : Bool := true
deriving DecidableEq

namespace Mode

/-- The mode with a flag turned on or off. The other flags say how a text is matched, and nothing
hangs on them here. -/
def set (mode : Mode) (flag : Char) (on : Bool) : Mode :=
  if flag = 'x' then { mode with verbose := on }
  else if flag = 'i' then { mode with caseless := on }
  else if flag = 'u' then { mode with unicode := on }
  else mode

/-- Skips blanks and comments, from within a comment or not. A comment ends with its line. -/
def skipFiller : Bool → List Char → List Char
  | _, [] => []
  | true, c :: rest => skipFiller (c ≠ '\n') rest
  | false, c :: rest =>
    if c = '#' then skipFiller true rest
    else if Text.isWhitespace c then skipFiller false rest
    else c :: rest

def skip (mode : Mode) (s : List Char) : List Char :=
  if mode.verbose then skipFiller false s else s

/-- The character that decides whether a dash before `rest` makes a range. The look ahead passes
over blanks and over the mark of a comment, but not over the comment. -/
def afterDash? (mode : Mode) (rest : List Char) : Option Char :=
  if mode.verbose then
    match rest.filter (!Text.isWhitespace ·) with
    | '#' :: c :: _ => some c
    | [] | ['#'] => rest.head?
    | c :: _ => some c
  else rest.head?

/-- Whether a character may stand for itself. One that is given as a byte may not be part of a
longer one. -/
def admitsChar (mode : Mode) (c : Char) (isByte : Bool) : Bool :=
  if mode.unicode then !mode.caseless else !isByte || c.toNat < 0x80

def admitsMember (mode : Mode) (c : Char) : Bool :=
  if mode.unicode then !mode.caseless else c.toNat < 0x80

def admitsClass (mode : Mode) (negated : Bool) : Bool :=
  !mode.unicode && !negated

def admitsAsciiClass (mode : Mode) (negated : Bool) : Bool :=
  if mode.unicode then !mode.caseless else !negated

def admitsBrackets (mode : Mode) (negated : Bool) : Bool :=
  mode.unicode || !negated

end Mode

end SizeGate.Log.Pattern
