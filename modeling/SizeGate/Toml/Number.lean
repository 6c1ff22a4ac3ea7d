import SizeGate.Text.Numeral
import SizeGate.Toml.Value

/-!
Integers and floating-point numbers of a TOML document.

An integer is read in one of four bases and must lie in the signed 64-bit range. Underscores may
stand between digits only. A floating-point number is kept as the decimal it spells; whether it is
too large for a double is decided exactly, without rounding.
-/

namespace SizeGate.Toml

/-- The digits at the front of a text that go on a number, each perhaps after one underscore. An
underscore without a digit behind it is an error. -/
def moreDigits? (base : Nat) : List Char → Option (List Nat × List Char)
  | [] => some ([], [])
  | c :: rest =>
    match Text.digitValue? base c with
    | some digit => (moreDigits? base rest).map fun read => (digit :: read.1, read.2)
    | none =>
      if c = '_' then
        if Text.startsDigit base rest then moreDigits? base rest else none
      else some ([], c :: rest)

def digits? (base : Nat) (s : List Char) : Option (List Nat × List Char) :=
  if Text.startsDigit base s then moreDigits? base s else none

def ofDigits (base : Nat) (digits : List Nat) : Nat :=
  digits.foldl (fun value digit => value * base + digit) 0

def isInt64 (n : Int) : Bool :=
  -0x8000000000000000 ≤ n && n < 0x8000000000000000

def integer? (n : Int) : Option Value :=
  if isInt64 n then some (.integer n) else none

/-- The whole part of a decimal number: a single zero, or digits that do not start with one. -/
def wholePart? : List Char → Option (List Nat × List Char)
  | '0' :: rest => some ([0], rest)
  | s => digits? 10 s

def sign : List Char → Bool × List Char
  | '-' :: rest => (true, rest)
  | '+' :: rest => (false, rest)
  | s => (false, s)

/-- Whether `digits * 10 ^ exponent` rounds to no finite double: the least such number lies half a
step above the largest double. -/
def exceedsDouble (digits : Nat) (exponent : Int) : Bool :=
  let least := Nat.pow 2 1024 - Nat.pow 2 970
  let magnitude := exponent + (Nat.toDigits 10 digits).length
  if digits = 0 ∨ magnitude ≤ 308 then false
  else if 310 < magnitude then true
  else least * Nat.pow 10 (-exponent).toNat ≤ digits * Nat.pow 10 exponent.toNat

/-- A floating-point value. One too large for a double is refused; one too far below zero reads as
negative infinity. -/
def float? (negative : Bool) (digits : Nat) (exponent : Int) : Option Value :=
  if exceedsDouble digits exponent then
    if negative then some (.float (.infinite true)) else none
  else some (.float (.finite negative digits exponent))

def fraction? : List Char → Option (List Nat × List Char)
  | '.' :: rest => digits? 10 rest
  | s => some ([], s)

def exponent? (s : List Char) : Option (Int × List Char) :=
  if s.head? = some 'e' ∨ s.head? = some 'E' then
    let (negative, rest) := sign (s.drop 1)
    (digits? 10 rest).map fun read =>
      let size : Int := ofDigits 10 read.1
      (if negative then -size else size, read.2)
  else some (0, s)

/-- Reads a decimal number after its sign. It is an integer unless a fraction or an exponent
follows. -/
def decimal? (negative : Bool) (s : List Char) : Option (Value × List Char) := do
  let (whole, s) ← wholePart? s
  if s.head? = some '.' ∨ s.head? = some 'e' ∨ s.head? = some 'E' then
    let (fraction, s) ← fraction? s
    let (exponent, s) ← exponent? s
    let value ← float? negative (ofDigits 10 (whole ++ fraction)) (exponent - fraction.length)
    some (value, s)
  else
    let size : Int := ofDigits 10 whole
    let value ← integer? (if negative then -size else size)
    some (value, s)

def based? (base : Nat) (s : List Char) : Option (Value × List Char) := do
  let (digits, rest) ← digits? base s
  let value ← integer? (ofDigits base digits)
  some (value, rest)

def number? (s : List Char) : Option (Value × List Char) :=
  match s with
  | '0' :: 'x' :: rest => based? 16 rest
  | '0' :: 'o' :: rest => based? 8 rest
  | '0' :: 'b' :: rest => based? 2 rest
  | _ =>
    let (negative, unsigned) := sign s
    match unsigned with
    | 'i' :: 'n' :: 'f' :: rest => some (.float (.infinite negative), rest)
    | 'n' :: 'a' :: 'n' :: rest => some (.float .notANumber, rest)
    | _ => decimal? negative unsigned

end SizeGate.Toml
