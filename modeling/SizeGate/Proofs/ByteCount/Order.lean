import Mathlib.Algebra.Order.Field.Rat
import Mathlib.Tactic.FieldSimp
import Mathlib.Tactic.NormNum
import SizeGate.Proofs.ByteCount
import SizeGate.Proofs.Reading
import SizeGate.Proofs.Text.Numeral

/-!
Byte counts compared by what is shown of them.

A reader takes the number in front of the unit, with or without a decimal, times the unit. Main
statement: of a larger count no smaller size is read (`shown_in_order`), in one unit or in two.
-/

namespace SizeGate.ByteCount

/-- The decimal number in front of a text, and what stands behind it. -/
def number (text : List Char) : Rat × List Char :=
  let whole := Nat.ofDigitChars 10 (text.takeWhile Char.isDigit) 0
  match text.dropWhile Char.isDigit with
  | '.' :: behind =>
    let decimals := behind.takeWhile Char.isDigit
    let fraction := (Nat.ofDigitChars 10 decimals 0 : Rat) / (Nat.pow 10 decimals.length : Nat)
    (whole + fraction, behind.dropWhile Char.isDigit)
  | behind => (whole, behind)

def unit? (name : List Char) : Option Nat :=
  if name = " B".toList then some 1
  else if name = " KB".toList then some 1024
  else if name = " MB".toList then some 1048576
  else none

/-- The size that a text stands for. -/
def read? (text : String) : Option Rat :=
  let (shown, behind) := number text.toList
  (unit? behind).map fun unit : Nat => shown * unit

private theorem stops_digits {c : Char} (hc : c.isDigit = false) (rest : List Char) :
    ∀ d ∈ (c :: rest).head?, d.isDigit = false := by
  rintro _ ⟨⟩
  exact hc

theorem number_of_whole (n : Nat) (name : List Char) :
    number ((Decimal.ofNat n).toList ++ ' ' :: name) = ((n : Rat), ' ' :: name) := by
  have hdigits : ∀ c ∈ (Decimal.ofNat n).toList, c.isDigit = true :=
    fun _ => Decimal.isDigit_of_mem_ofNat
  have hstop := stops_digits (c := ' ') rfl name
  rw [number, takeWhile_append_of_stop hdigits hstop, dropWhile_append_of_stop hdigits hstop,
    Decimal.ofDigitChars_toList_ofNat]
  rfl

theorem number_of_decimal (whole : Nat) {digit : Nat} (hdigit : digit < 10) (name : List Char) :
    number ((Decimal.ofNat whole).toList ++ '.' :: ((Decimal.ofNat digit).toList ++ ' ' :: name)) =
      ((whole : Rat) + (digit : Rat) / 10, ' ' :: name) := by
  have hdigits : ∀ n, ∀ c ∈ (Decimal.ofNat n).toList, c.isDigit = true :=
    fun _ _ => Decimal.isDigit_of_mem_ofNat
  have hpoint := stops_digits (c := '.') rfl ((Decimal.ofNat digit).toList ++ ' ' :: name)
  have hstop := stops_digits (c := ' ') rfl name
  have hlength : (Decimal.ofNat digit).toList.length = 1 := by
    rw [Decimal.toList_ofNat, Nat.toDigits_of_lt_base hdigit, List.length_singleton]
  rw [number, takeWhile_append_of_stop (hdigits whole) hpoint,
    dropWhile_append_of_stop (hdigits whole) hpoint]
  simp only [takeWhile_append_of_stop (hdigits digit) hstop,
    dropWhile_append_of_stop (hdigits digit) hstop, Decimal.ofDigitChars_toList_ofNat, hlength]
  norm_num

theorem Fills.unit?_eq {n unit : Nat} {name : String} (h : Fills n name unit) :
    unit? (' ' :: name.toList) = some unit := by
  cases h <;> decide

/-- A size that a count may be shown as in a unit. -/
def ShownAs (unit n : Nat) (x : Rat) : Prop :=
  ∃ double shown, Nearest IsDouble IsEvenDouble n double ∧
    Nearest IsTenths IsEvenTenths (double / unit) shown ∧ x = shown * unit

section Sizes

variable {n m unit other : Nat} {name : String} {x y : Rat}

/-- In a unit, sizes are in the order of the counts. -/
theorem ShownAs.mono (h : ShownAs unit n x) (hother : ShownAs unit m y) (hle : n ≤ m) : x ≤ y := by
  obtain ⟨double, shown, hdouble, hshown, rfl⟩ := h
  obtain ⟨double', shown', hdouble', hshown', rfl⟩ := hother
  have hcounts : double ≤ double' :=
    Nearest.mono alternates_double hdouble hdouble' (by exact_mod_cast hle)
  have hquotients : double / unit ≤ double' / unit :=
    div_le_div_of_nonneg_right hcounts (Nat.cast_nonneg unit)
  exact mul_le_mul_of_nonneg_right (Nearest.mono alternates_tenths hshown hshown' hquotients)
    (Nat.cast_nonneg unit)

/-- A whole number of units is shown as it is. -/
theorem shownAs_of_dvd (hunit : 0 < unit) (h : unit ∣ n) (hn : n < 9007199254740992) :
    ShownAs unit n n := by
  obtain ⟨count, rfl⟩ := h
  have hne : (unit : Rat) ≠ 0 := by exact_mod_cast Nat.ne_of_gt hunit
  have hquotient : ((unit * count : Nat) : Rat) / unit = count := by
    push_cast
    field_simp
  have htenths : IsTenths count := ⟨10 * count, by push_cast; ring⟩
  refine ⟨(unit * count : Nat), count, .of_value ⟨_, 0, hn, by simp⟩, ?_, by push_cast; ring⟩
  rw [hquotient]
  exact .of_value htenths

/-- A unit begins at a count that is a whole number of any smaller one. -/
theorem Fills.eq_or_between {name' : String} (h : Fills n name unit) (hother : Fills m name' other)
    (hle : n ≤ m) : unit = other ∨ n ≤ other ∧ other ≤ m ∧ unit ∣ other := by
  cases h <;> cases hother <;> omega

/-- Each text is a number and a unit that the count fills. The number is what the count is shown as
in that unit. -/
theorem exists_number_text (n : Nat) : ∃ name unit shown, Fills n name unit ∧
    number (text n).toList = (shown, ' ' :: name.toList) ∧ ShownAs unit n (shown * unit) := by
  rcases Nat.lt_or_ge n 1024 with hsmall | hlarge
  · have hlist : (text n).toList = (Decimal.ofNat n).toList ++ ' ' :: "B".toList := by
      rw [text_of_lt hsmall]
      simp
    have hshown : ShownAs 1 n n := shownAs_of_dvd (by decide) (Nat.one_dvd n) (by omega)
    refine ⟨_, _, n, .bytes hsmall, ?_, ?_⟩
    · rw [hlist, number_of_whole]
    · rwa [Nat.cast_one, mul_one]
  · obtain ⟨name, unit, hfills⟩ := exists_fills n
    obtain ⟨whole, digit, hdigit, htext, hnearest, -⟩ := exists_digits n hfills.unit_pos
    have hlist : (text n).toList = (Decimal.ofNat whole).toList ++
        '.' :: ((Decimal.ofNat digit).toList ++ ' ' :: name.toList) := by
      rw [hfills.text_eq hlarge, htext]
      simp
    refine ⟨name, unit, whole + digit / 10, hfills, ?_, _, _, nearest_significant n, hnearest, rfl⟩
    rw [hlist, number_of_decimal whole hdigit]

theorem exists_read?_text (n : Nat) : ∃ name unit x, Fills n name unit ∧
    read? (text n) = some x ∧ ShownAs unit n x := by
  obtain ⟨name, unit, shown, hfills, hnumber, hshown⟩ := exists_number_text n
  refine ⟨name, unit, shown * unit, hfills, ?_, hshown⟩
  simp only [read?, hnumber, hfills.unit?_eq, Option.map_some]

end Sizes

/-- Of a larger count no smaller size is read. -/
theorem shown_in_order (a b : UInt64) (h : a ≤ b) : ∃ x y, read? (text a.toNat) = some x ∧
    read? (text b.toNat) = some y ∧ x ≤ y := by
  obtain ⟨name, unit, x, hfills, hx, hshown⟩ := exists_read?_text a.toNat
  obtain ⟨name', unit', y, hfills', hy, hshown'⟩ := exists_read?_text b.toNat
  have hle : a.toNat ≤ b.toNat := UInt64.le_iff_toNat_le.mp h
  refine ⟨x, y, hx, hy, ?_⟩
  rcases hfills.eq_or_between hfills' hle with rfl | ⟨hlow, hhigh, hdvd⟩
  · exact hshown.mono hshown' hle
  · have hsmall : unit' < 9007199254740992 := by cases hfills' <;> decide
    have hend : ShownAs unit unit' unit' := shownAs_of_dvd hfills.unit_pos hdvd hsmall
    have hstart : ShownAs unit' unit' unit' :=
      shownAs_of_dvd hfills'.unit_pos (Nat.dvd_refl unit') hsmall
    exact (hshown.mono hend hlow).trans (hstart.mono hshown' hhigh)

/-- The last count below a megabyte is rounded up to 1024 kilobytes. -/
theorem shown_in_order_at_megabyte : ((1048575 : UInt64) ≤ 1048576) ∧
    ∃ x y, read? (text (1048575 : UInt64).toNat) = some x ∧
      read? (text (1048576 : UInt64).toNat) = some y ∧ x ≤ y :=
  ⟨by decide, shown_in_order 1048575 1048576 (by decide)⟩

end SizeGate.ByteCount
