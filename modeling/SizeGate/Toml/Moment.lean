import SizeGate.Toml.Number

/-!
Dates and times of a TOML document.

Every field is held to its range: days to the length of their month, with leap years, and hours,
minutes and seconds to those of a clock that may show second 60.
-/

namespace SizeGate.Toml

def fixedDigits? : Nat → List Char → Option (Nat × List Char)
  | 0, s => some (0, s)
  | _ + 1, [] => none
  | count + 1, c :: rest => do
    let digit ← Text.digitValue? 10 c
    let (value, after) ← fixedDigits? count rest
    some (digit * 10 ^ count + value, after)

def expect? (c : Char) : List Char → Option (List Char)
  | [] => none
  | first :: rest => if first = c then some rest else none

def field? (least greatest : Nat) (s : List Char) : Option (Nat × List Char) :=
  (fixedDigits? 2 s).filter fun read => least ≤ read.1 && read.1 ≤ greatest

def isLeapYear (year : Nat) : Bool :=
  year % 4 = 0 && (year % 100 ≠ 0 || year % 400 = 0)

def daysIn (year month : Nat) : Nat :=
  if month = 2 then if isLeapYear year then 29 else 28
  else if month = 4 ∨ month = 6 ∨ month = 9 ∨ month = 11 then 30
  else 31

def date? (s : List Char) : Option (Date × List Char) := do
  let (year, s) ← fixedDigits? 4 s
  let s ← expect? '-' s
  let (month, s) ← field? 1 12 s
  let s ← expect? '-' s
  let (day, s) ← field? 1 (daysIn year month) s
  some (⟨year, month, day⟩, s)

/-- The digits of a fraction of a second, none if no point with a digit behind it follows. -/
def secondFraction : List Char → List Nat × List Char
  | '.' :: rest =>
    let digits := rest.takeWhile fun c => (Text.digitValue? 10 c).isSome
    if digits = [] then ([], '.' :: rest)
    else (digits.filterMap (Text.digitValue? 10), rest.drop digits.length)
  | s => ([], s)

def time? (s : List Char) : Option (Time × List Char) := do
  let (hour, s) ← field? 0 23 s
  let s ← expect? ':' s
  let (minute, s) ← field? 0 59 s
  let s ← expect? ':' s
  let (second, s) ← field? 0 60 s
  let (fraction, s) := secondFraction s
  some (⟨hour, minute, second, fraction⟩, s)

/-- Reads an offset from universal time, in minutes, if one stands there. -/
def offset? : List Char → Option (Option Int × List Char)
  | [] => some (none, [])
  | c :: rest =>
    if c = 'Z' ∨ c = 'z' then some (some 0, rest)
    else if c = '+' ∨ c = '-' then do
      let (hours, s) ← field? 0 23 rest
      let s ← expect? ':' s
      let (minutes, s) ← field? 0 59 s
      let size : Int := (hours * 60 + minutes : Nat)
      some (some (if c = '-' then -size else size), s)
    else some (none, c :: rest)

def startsField (count : Nat) (mark : Char) (s : List Char) : Bool :=
  ((fixedDigits? count s).bind fun read => expect? mark read.2).isSome

/-- Whether a date or a time starts here rather than a number. -/
def startsMoment (s : List Char) : Bool :=
  startsField 4 '-' s || startsField 2 ':' s

/-- Reads a date, a time of day, or a date and a time with an optional offset. The two are set
apart by the letter T or one space; a space that no time follows is left where it is. -/
def moment? (s : List Char) : Option (Moment × List Char) :=
  if startsField 4 '-' s then do
    let (date, rest) ← date? s
    match rest with
    | [] => some (⟨some date, none, none⟩, [])
    | mark :: after =>
      if (mark = 'T' ∨ mark = 't' ∨ mark = ' ') ∧ startsField 2 ':' after then
        let (time, rest) ← time? after
        let (offset, rest) ← offset? rest
        some (⟨some date, some time, offset⟩, rest)
      else some (⟨some date, none, none⟩, mark :: after)
  else do
    let (time, rest) ← time? s
    some (⟨none, some time, none⟩, rest)

end SizeGate.Toml
