import SizeGate.Text.Numeral

/-!
Moments of universal time and their two spellings. Both put the date before a `T` and the time of
day behind it; they differ in the fraction of the second and in how they name the offset.
-/

namespace SizeGate

structure Instant where
  year : Nat
  month : Nat
  day : Nat
  hour : Nat
  minute : Nat
  second : Nat
  nanosecond : Nat
deriving DecidableEq

namespace Instant

def padded (width n : Nat) : String :=
  let digits := Decimal.ofNat n
  String.ofList (List.replicate (width - digits.length) '0') ++ digits

def whole (instant : Instant) : String :=
  padded 4 instant.year ++ "-" ++ padded 2 instant.month ++ "-" ++ padded 2 instant.day
    ++ "T" ++ padded 2 instant.hour ++ ":" ++ padded 2 instant.minute
    ++ ":" ++ padded 2 instant.second

/-- The fraction of the second in the fewest groups of three digits that are exact. -/
def fraction (instant : Instant) : String :=
  if instant.nanosecond = 0 then ""
  else if instant.nanosecond % 1000000 = 0 then "." ++ padded 3 (instant.nanosecond / 1000000)
  else if instant.nanosecond % 1000 = 0 then "." ++ padded 6 (instant.nanosecond / 1000)
  else "." ++ padded 9 instant.nanosecond

def inReport (instant : Instant) : String :=
  instant.whole ++ instant.fraction ++ "+00:00"

/-- The moment in a log line, cut to microseconds. -/
def inLog (instant : Instant) : String :=
  instant.whole ++ "." ++ padded 6 (instant.nanosecond / 1000) ++ "Z"

end Instant

end SizeGate
