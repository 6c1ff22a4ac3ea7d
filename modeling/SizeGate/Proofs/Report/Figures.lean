import SizeGate.Proofs.Report
import SizeGate.Proofs.Report.Decoding

/-!
The figures of a report, read back.

A reader who knows of the report for people only that it has four decimal numbers and that its third
line begins with a word, and of the report for programs only the names of its fields, gets the same
figures from both. Main statements: these are the ones of the verdict (`ofText?_text`,
`ofJson?_json`), in color or without and whatever the time and the path.
-/

namespace SizeGate

/-- What a report says of a check. -/
structure Figures where
  size : Nat
  limit : Nat
  slot : Nat
  margin : Nat
  fits : Bool
deriving DecidableEq

namespace Figures

def ofVerdict (verdict : Verdict) : Figures where
  size := verdict.size.toNat
  limit := verdict.budget.limit.toNat
  slot := verdict.budget.slot.toNat
  margin := verdict.budget.margin.toNat
  fits := verdict.fits

section Text

/-- The decimal numbers of a text, in order. -/
def numbersIn : List Char → List Nat
  | [] => []
  | c :: rest =>
    if c.isDigit then
      Nat.ofDigitChars 10 (c :: rest.takeWhile Char.isDigit) 0 ::
        numbersIn (rest.dropWhile Char.isDigit)
    else numbersIn rest
termination_by text => text.length
decreasing_by
  · have := List.length_dropWhile_le Char.isDigit rest
    simp only [List.length_cons]
    omega
  · simp

/-- A text without its escape sequences, each of which ends with an `m`. It may begin inside of
one. -/
def withoutColor (inside : Bool) : List Char → List Char
  | [] => []
  | c :: rest =>
    if inside then withoutColor (c != 'm') rest
    else if c = '\x1b' then withoutColor true rest
    else c :: withoutColor false rest

/-- What stands behind the first line of a text. -/
def behindLine (text : List Char) : List Char :=
  (text.dropWhile (· != '\n')).drop 1

def verdictOf? (word : List Char) : Option Bool :=
  if word = ['O', 'K'] then some true
  else if word = ['E', 'R', 'R', 'O', 'R'] then some false
  else none

/-- Reads the report for people: its four numbers, and the word that its third line begins with. -/
def ofText? (report : String) : Option Figures :=
  let plain := withoutColor false report.toList
  match numbersIn plain with
  | [size, limit, slot, margin] =>
    (verdictOf? ((behindLine (behindLine plain)).takeWhile (· != ':'))).map
      fun fits => ⟨size, limit, slot, margin, fits⟩
  | _ => none

variable {front rest : List Char}

theorem numbersIn_append_of_not_digit (h : front.any Char.isDigit = false) :
    numbersIn (front ++ rest) = numbersIn rest := by
  induction front with
  | nil => rfl
  | cons c front ih =>
    rw [List.any_cons, Bool.or_eq_false_iff] at h
    rw [List.cons_append, numbersIn, h.1]
    exact ih h.2

/-- A number in front of something that has no digits is read as that number. -/
theorem numbersIn_ofNat_append {behind : List Char} (n : Nat) (hsome : behind ≠ [])
    (hbehind : behind.any Char.isDigit = false) :
    numbersIn ((Decimal.ofNat n).toList ++ (behind ++ rest)) = n :: numbersIn rest := by
  have hread := Decimal.ofDigitChars_toList_ofNat n
  have hall := @Decimal.isDigit_of_mem_ofNat n
  have hstop : ∀ c ∈ (behind ++ rest).head?, c.isDigit = false := by
    obtain ⟨c, more, rfl⟩ := List.exists_cons_of_ne_nil hsome
    intro d hhead
    cases hhead
    rw [List.any_cons, Bool.or_eq_false_iff] at hbehind
    exact hbehind.1
  obtain ⟨d, digits, hcons⟩ := List.exists_cons_of_ne_nil (Decimal.toList_ofNat_ne_nil n)
  rw [hcons] at hread hall
  have hdigits : ∀ c ∈ digits, c.isDigit = true :=
    fun c member => hall (List.mem_cons_of_mem d member)
  rw [hcons, List.cons_append, numbersIn, if_pos (hall List.mem_cons_self),
    takeWhile_append_of_stop hdigits hstop, dropWhile_append_of_stop hdigits hstop, hread,
    numbersIn_append_of_not_digit hbehind]

theorem withoutColor_append (h : '\x1b' ∉ front) :
    withoutColor false (front ++ rest) = front ++ withoutColor false rest := by
  induction front with
  | nil => rfl
  | cons c front ih =>
    rw [List.mem_cons, not_or] at h
    rw [List.cons_append, withoutColor, if_neg Bool.false_ne_true, if_neg (Ne.symm h.1), ih h.2,
      List.cons_append]

theorem behindLine_append (h : '\n' ∉ front) : behindLine (front ++ '\n' :: rest) = rest := by
  have hline : ∀ c ∈ front, (c != '\n') = true := by
    intro c member
    rw [bne_iff_ne]
    rintro rfl
    exact h member
  rw [behindLine, dropWhile_append_of_stop hline (by simp), List.drop_one, List.tail_cons]

def sizeLine (verdict : Verdict) : List Char :=
  "App binary: ".toList ++ ((Decimal.ofNat verdict.size.toNat).toList ++ " bytes".toList)

def budgetLine (verdict : Verdict) : List Char :=
  "Budget:     ".toList ++ ((Decimal.ofNat verdict.budget.limit.toNat).toList ++
    (" bytes (slot ".toList ++ ((Decimal.ofNat verdict.budget.slot.toNat).toList ++
      (" - margin ".toList ++ ((Decimal.ofNat verdict.budget.margin.toNat).toList ++
        ")".toList)))))

open Report (verdictLine)

theorem toList_text (colored : Bool) (verdict : Verdict) : (Report.text colored verdict).toList =
    sizeLine verdict ++ '\n' :: (budgetLine verdict ++ '\n' ::
      (verdictLine colored verdict.fits).toList) := by
  have hsize : " bytes\n".toList = " bytes".toList ++ ['\n'] := by decide +kernel
  have hbudget : ")\n".toList = ")".toList ++ ['\n'] := by decide +kernel
  rw [← Report.verdict_line]
  unfold Report.text sizeLine budgetLine
  repeat rw [String.toList_append]
  rw [hsize, hbudget]
  repeat rw [List.append_assoc]
  rfl

theorem not_mem_ofNat {c : Char} (hc : c.isDigit = false) (n : Nat) :
    c ∉ (Decimal.ofNat n).toList := by
  intro member
  rw [Decimal.isDigit_of_mem_ofNat member] at hc
  cases hc

theorem not_mem_sizeLine {c : Char} (hc : c = '\n' ∨ c = '\x1b') (verdict : Verdict) :
    c ∉ sizeLine verdict := by
  have hdigit : c.isDigit = false := by rcases hc with rfl | rfl <;> rfl
  have hwords : c ∉ "App binary: ".toList ∧ c ∉ " bytes".toList := by
    rcases hc with rfl | rfl <;> decide +kernel
  unfold sizeLine
  rw [List.mem_append, List.mem_append, not_or, not_or]
  exact ⟨hwords.1, not_mem_ofNat hdigit _, hwords.2⟩

theorem not_mem_budgetLine {c : Char} (hc : c = '\n' ∨ c = '\x1b') (verdict : Verdict) :
    c ∉ budgetLine verdict := by
  have hdigit : c.isDigit = false := by rcases hc with rfl | rfl <;> rfl
  have hwords : c ∉ "Budget:     ".toList ∧ c ∉ " bytes (slot ".toList ∧ c ∉ " - margin ".toList ∧
      c ∉ ")".toList := by
    rcases hc with rfl | rfl <;> decide +kernel
  unfold budgetLine
  repeat rw [List.mem_append, not_or]
  exact ⟨hwords.1, not_mem_ofNat hdigit _, hwords.2.1, not_mem_ofNat hdigit _, hwords.2.2.1,
    not_mem_ofNat hdigit _, hwords.2.2.2⟩

/-- Without its color, a report is the one that never had any. -/
theorem withoutColor_text (colored : Bool) (verdict : Verdict) :
    withoutColor false (Report.text colored verdict).toList =
      (Report.text false verdict).toList := by
  have hverdict : ∀ fits, withoutColor false (verdictLine colored fits).toList =
      (verdictLine false fits).toList := by
    revert colored
    decide +kernel
  have hnewline : ∀ rest, withoutColor false ('\n' :: rest) = '\n' :: withoutColor false rest :=
    fun rest => rfl
  rw [toList_text, toList_text, withoutColor_append (not_mem_sizeLine (.inr rfl) verdict), hnewline,
    withoutColor_append (not_mem_budgetLine (.inr rfl) verdict), hnewline, hverdict]

theorem numbersIn_newline : numbersIn ('\n' :: rest) = numbersIn rest :=
  @numbersIn_append_of_not_digit ['\n'] rest (by simp)

theorem numbersIn_sizeLine (verdict : Verdict) :
    numbersIn (sizeLine verdict ++ '\n' :: rest) = verdict.size.toNat :: numbersIn rest := by
  have hfront : "App binary: ".toList.any Char.isDigit = false := by decide +kernel
  have hbytes : " bytes".toList.any Char.isDigit = false := by decide +kernel
  unfold sizeLine
  rw [List.append_assoc, List.append_assoc, numbersIn_append_of_not_digit hfront,
    numbersIn_ofNat_append _ (by decide +kernel) hbytes, numbersIn_newline]

theorem numbersIn_budgetLine (verdict : Verdict) :
    numbersIn (budgetLine verdict ++ '\n' :: rest) = verdict.budget.limit.toNat ::
      verdict.budget.slot.toNat :: verdict.budget.margin.toNat :: numbersIn rest := by
  have hfront : "Budget:     ".toList.any Char.isDigit = false := by decide +kernel
  have hslot : " bytes (slot ".toList.any Char.isDigit = false := by decide +kernel
  have hmargin : " - margin ".toList.any Char.isDigit = false := by decide +kernel
  have hend : ")".toList.any Char.isDigit = false := by decide +kernel
  unfold budgetLine
  repeat rw [List.append_assoc]
  rw [numbersIn_append_of_not_digit hfront, numbersIn_ofNat_append _ (by decide +kernel) hslot,
    numbersIn_ofNat_append _ (by decide +kernel) hmargin,
    numbersIn_ofNat_append _ (by decide +kernel) hend, numbersIn_newline]

theorem numbersIn_text (verdict : Verdict) : numbersIn (Report.text false verdict).toList =
    [verdict.size.toNat, verdict.budget.limit.toNat, verdict.budget.slot.toNat,
      verdict.budget.margin.toNat] := by
  have hverdict : ∀ fits, (verdictLine false fits).toList.any Char.isDigit = false := by
    decide +kernel
  have hnone := @numbersIn_append_of_not_digit _ [] (hverdict verdict.fits)
  rw [List.append_nil, numbersIn] at hnone
  rw [toList_text, numbersIn_sizeLine, numbersIn_budgetLine, hnone]

theorem ofText?_text (colored : Bool) (verdict : Verdict) :
    ofText? (Report.text colored verdict) = some (ofVerdict verdict) := by
  have hthird : behindLine (behindLine (Report.text false verdict).toList) =
      (verdictLine false verdict.fits).toList := by
    rw [toList_text, behindLine_append (not_mem_sizeLine (.inl rfl) verdict),
      behindLine_append (not_mem_budgetLine (.inl rfl) verdict)]
  have hword : ∀ fits, verdictOf? ((verdictLine false fits).toList.takeWhile (· != ':')) =
      some fits := by decide +kernel
  simp only [ofText?, withoutColor_text, numbersIn_text, hthird, hword]
  rfl

end Text

section Json

open Json (Value)

/-- The member of that name, the first one if there are several. -/
def member? (name : String) : Value → Option Value
  | .object members => members.lookup name
  | _ => none

def natural? : Value → Option Nat
  | .number value => if value.den = 1 ∧ 0 ≤ value.num then some value.num.toNat else none
  | _ => none

def boolean? : Value → Option Bool
  | .boolean value => some value
  | _ => none

def ofValue? (value : Value) : Option Figures := do
  let budget ← member? "budget" value
  let size ← natural? (← member? "size_bytes" value)
  let limit ← natural? (← member? "max_app_bytes" budget)
  let slot ← natural? (← member? "slot_bytes" budget)
  let margin ← natural? (← member? "margin_bytes" budget)
  let fits ← boolean? (← member? "passed" value)
  some ⟨size, limit, slot, margin, fits⟩

/-- Reads the report for programs, by the names of its fields. -/
def ofJson? (report : String) : Option Figures :=
  Json.read? report >>= ofValue?

theorem natural?_natCast (n : Nat) : natural? (.number n) = some n := by
  have hinteger : (n : Rat).den = 1 ∧ 0 ≤ (n : Rat).num := by
    rw [Rat.den_natCast, Rat.num_natCast]
    exact ⟨rfl, Int.natCast_nonneg n⟩
  rw [natural?, if_pos hinteger, Rat.num_natCast, Int.toNat_natCast]

theorem ofValue?_reported (time shown : String) (verdict : Verdict) :
    ofValue? (Report.reported time shown verdict) = some (ofVerdict verdict) := by
  simp [ofValue?, Report.reported, member?, List.lookup_cons, natural?_natCast, boolean?, ofVerdict]

theorem ofJson?_json (time : String) (artifact : Path) (verdict : Verdict) :
    ofJson? (Report.json time artifact verdict) = some (ofVerdict verdict) := by
  rw [ofJson?, Report.read?_json, Option.bind_eq_bind, Option.bind_some, ofValue?_reported]

end Json

/-- Reads the report of a format. -/
def read? : Format → String → Option Figures
  | .text => ofText?
  | .json => ofJson?

end Figures

end SizeGate
