import Mathlib.Algebra.Order.Field.Rat
import Mathlib.Tactic.FieldSimp
import Mathlib.Tactic.Linarith
import Mathlib.Tactic.Ring
import SizeGate.Proofs.Rounding

/-!
The number that a byte count is shown as.

Below a kilobyte it is the count itself. From there on it is a number with one decimal: the count is
rounded to a double and its quotient by the unit is rounded once more. Main statement: the text of
every count, and how far the number in it may be off (`text_correct`).
-/

namespace SizeGate.ByteCount

/-- The units with their names, and the counts that each is meant for. -/
inductive Fills (n : Nat) : String → Nat → Prop
  | bytes (h : n < 1024) : Fills n "B" 1
  | kilobytes (h : 1024 ≤ n) (hbelow : n < 1048576) : Fills n "KB" 1024
  | megabytes (h : 1048576 ≤ n) : Fills n "MB" 1048576

variable {n unit : Nat} {name : String}

theorem exists_fills (n : Nat) : ∃ name unit, Fills n name unit := by
  rcases Nat.lt_or_ge n 1024 with hsmall | hkilobyte
  · exact ⟨_, _, .bytes hsmall⟩
  rcases Nat.lt_or_ge n 1048576 with hbelow | hmegabyte
  · exact ⟨_, _, .kilobytes hkilobyte hbelow⟩
  · exact ⟨_, _, .megabytes hmegabyte⟩

theorem Fills.unit_pos (h : Fills n name unit) : 0 < unit := by
  cases h <;> decide

theorem text_of_lt (h : n < 1024) : text n = Decimal.ofNat n ++ " B" := by
  rw [text, megabyte, kilobyte, if_neg (by omega), if_neg (by omega)]

theorem Fills.text_eq (h : Fills n name unit) (hn : 1024 ≤ n) :
    text n = inUnits unit n ++ " " ++ name := by
  rw [text, megabyte, kilobyte, String.append_assoc]
  cases h with
  | bytes hsmall => omega
  | kilobytes _ hbelow =>
    rw [if_neg (by omega), if_pos hn]
    rfl
  | megabytes hmegabyte =>
    rw [if_pos hmegabyte]
    rfl

/-- The tenths of the rounded quotient are written with a point in front of the last digit. -/
theorem exists_digits (n : Nat) (hunit : 0 < unit) : ∃ whole digit : Nat, digit < 10 ∧
    inUnits unit n = Decimal.ofNat whole ++ "." ++ Decimal.ofNat digit ∧
    Nearest IsTenths IsEvenTenths ((significant 53 n : Nat) / unit) (whole + digit / 10) ∧
    |((significant 53 n : Nat) : Rat) / unit - (whole + digit / 10)| ≤ 1 / 20 := by
  have hnearest := nearest_tenths (significant 53 n) hunit
  obtain ⟨hhalf, -⟩ := abs_sub_tenths (significant 53 n) hunit
  rw [inUnits]
  generalize roundHalfEven (10 * significant 53 n) unit = rounded at hnearest hhalf ⊢
  have hsplit : (rounded : Rat) = 10 * (rounded / 10 : Nat) + (rounded % 10 : Nat) := by
    exact_mod_cast (Nat.div_add_mod rounded 10).symm
  have hshown : (rounded : Rat) / 10 =
      (rounded / 10 : Nat) + ((rounded % 10 : Nat) : Rat) / 10 := by
    linarith
  refine ⟨rounded / 10, rounded % 10, Nat.mod_lt _ (by decide), rfl, ?_, ?_⟩
  · rwa [← hshown]
  · rw [← hshown, div_eq_mul_one_div (rounded : Rat) 10]
    exact hhalf.trans_eq (by norm_num)

/-- The number in the text of every count of 64 bits, by what it is nearest to. -/
theorem text_correct (count : UInt64) :
    (count.toNat < 1024 → text count.toNat = Decimal.ofNat count.toNat ++ " B") ∧
      (1024 ≤ count.toNat → ∃ name unit whole digit, Fills count.toNat name unit ∧ digit < 10 ∧
        text count.toNat = Decimal.ofNat whole ++ "." ++ Decimal.ofNat digit ++ " " ++ name ∧
        let exact : Rat := count.toNat
        let shown : Rat := whole + (digit : Rat) / 10
        (∃ double, Nearest IsDouble IsEvenDouble exact double ∧
          Nearest IsTenths IsEvenTenths (double / unit) shown) ∧
        (count.toNat ≤ 9007199254740992 →
          Nearest IsTenths IsEvenTenths (exact / unit) shown ∧ |shown - exact / unit| ≤ 1 / 20) ∧
        (9007199254740992 < count.toNat →
          |shown * unit - exact| ≤ (unit : Rat) / 20 + 1024)) := by
  refine ⟨text_of_lt, fun hn => ?_⟩
  obtain ⟨name, unit, hfills⟩ := exists_fills count.toNat
  obtain ⟨whole, digit, hdigit, htext, hnearest, hhalf⟩ :=
    exists_digits count.toNat hfills.unit_pos
  refine ⟨name, unit, whole, digit, hfills, hdigit, ?_,
    ⟨_, nearest_significant count.toNat, hnearest⟩, ?_, ?_⟩
  · rw [hfills.text_eq hn, htext]
  · intro hexact
    rw [significant_of_le hexact] at hnearest hhalf
    rw [abs_sub_comm]
    exact ⟨hnearest, hhalf⟩
  · intro _
    have hpos : (0 : Rat) < unit := by exact_mod_cast hfills.unit_pos
    have hdouble := abs_sub_significant_le count.toNat_lt
    have hscaled := mul_le_mul_of_nonneg_right hhalf hpos.le
    generalize ((significant 53 count.toNat : Nat) : Rat) = double at hdouble hhalf hscaled
    generalize (whole : Rat) + (digit : Rat) / 10 = shown at hscaled ⊢
    have hfactor : shown * unit - double = (shown - double / unit) * unit := by field_simp
    calc |shown * unit - count.toNat|
      _ ≤ |shown * unit - double| + |double - count.toNat| := abs_sub_le _ _ _
      _ = |double / unit - shown| * unit + |count.toNat - double| := by
        rw [hfactor, abs_mul, abs_of_pos hpos, abs_sub_comm shown, abs_sub_comm double]
      _ ≤ (unit : Rat) / 20 + 1024 := by linarith

/-- Quotients of 1.25 and 1.75, and the largest count of all, which no double is equal to. -/
example : text 1280 = "1.2 KB" ∧ text 1792 = "1.8 KB" ∧
    text 18446744073709551615 = "17592186044416.0 MB" := by
  decide +kernel

end SizeGate.ByteCount
