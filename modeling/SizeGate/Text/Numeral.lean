/-!
Numbers as text.

A whole number is written in decimal with no sign unless it is negative and no leading zeros, and
the digits of number notations are read one by one. A byte count for people stands in the largest
unit that it fills: `1023 B`, `4.5 MB`. From one kilobyte on, the count is first rounded to 53
significant bits and the quotient by the unit is then shown with one decimal. Both roundings send an
exact half to the even neighbour.
-/

namespace SizeGate.Decimal

def ofNat (n : Nat) : String :=
  n.repr

def ofInt : Int → String
  | .ofNat n => n.repr
  | .negSucc n => "-" ++ (n + 1).repr

end SizeGate.Decimal

namespace SizeGate.Text

/-- The value of a digit in a base of at most sixteen. Letters count in either case. -/
def digitValue? (base : Nat) (c : Char) : Option Nat :=
  let value? :=
    if '0' ≤ c ∧ c ≤ '9' then some (c.toNat - '0'.toNat)
    else if 'a' ≤ c ∧ c ≤ 'f' then some (c.toNat - 'a'.toNat + 10)
    else if 'A' ≤ c ∧ c ≤ 'F' then some (c.toNat - 'A'.toNat + 10)
    else none
  value?.filter (· < base)

def startsDigit (base : Nat) (s : List Char) : Bool :=
  (s.head?.bind (digitValue? base)).isSome

end SizeGate.Text

namespace SizeGate.ByteCount

/-- `n / d` rounded to the nearest whole number, an exact half to the even one. -/
def roundHalfEven (n d : Nat) : Nat :=
  let quotient := n / d
  let twice := 2 * (n % d)
  if twice < d ∨ (twice = d ∧ quotient % 2 = 0) then quotient else quotient + 1

def significant (bits n : Nat) : Nat :=
  let step := Nat.pow 2 (n.log2 + 1 - bits)
  roundHalfEven n step * step

def tenths (n : Nat) : String :=
  Decimal.ofNat (n / 10) ++ "." ++ Decimal.ofNat (n % 10)

def inUnits (unit n : Nat) : String :=
  tenths (roundHalfEven (10 * significant 53 n) unit)

def kilobyte : Nat := 1024

def megabyte : Nat := 1048576

/-- A count in the largest unit that it fills. -/
def text (n : Nat) : String :=
  if megabyte ≤ n then inUnits megabyte n ++ " MB"
  else if kilobyte ≤ n then inUnits kilobyte n ++ " KB"
  else Decimal.ofNat n ++ " B"

end SizeGate.ByteCount
