import SizeGate.Proofs.ByteCount.Order

/-!
The unit that a byte count is shown in.

The unit is chosen by the count, and the number in front of it is rounded afterwards. Main
statement: the number is shown in the largest unit that fits it, except just below a megabyte, where
the rounding carries and every count is shown as 1024 kilobytes (`text_inLargestUnit_iff`).
-/

namespace SizeGate.ByteCount

/-- Of no unit but the largest are there 1024 or more, and of none but the smallest fewer than
one. -/
inductive Suits : Rat → String → Prop
  | bytes {shown : Rat} (hbelow : shown < 1024) : Suits shown "B"
  | kilobytes {shown : Rat} (h : 1 ≤ shown) (hbelow : shown < 1024) : Suits shown "KB"
  | megabytes {shown : Rat} (h : 1 ≤ shown) : Suits shown "MB"

/-- The number in a text is shown in the largest unit that fits it. -/
def InLargestUnit (text : String) : Prop :=
  ∃ shown name, number text.toList = (shown, ' ' :: name.toList) ∧ Suits shown name

section Bounds

variable {n unit whole : Nat} {shown : Rat}

/-- A count of so many units or more is shown as no fewer. -/
theorem ShownAs.le_shown (h : ShownAs unit n (shown * unit)) (hunit : 0 < unit)
    (hwhole : unit * whole < 9007199254740992) (hle : unit * whole ≤ n) : whole ≤ shown := by
  have hpos : (0 : Rat) < unit := by exact_mod_cast hunit
  have hmono := (shownAs_of_dvd hunit (Nat.dvd_mul_right unit whole) hwhole).mono h hle
  rw [Nat.cast_mul, mul_comm] at hmono
  exact le_of_mul_le_mul_right hmono hpos

/-- A count of so many units or fewer is shown as no more. -/
theorem ShownAs.shown_le (h : ShownAs unit n (shown * unit)) (hunit : 0 < unit)
    (hwhole : unit * whole < 9007199254740992) (hle : n ≤ unit * whole) : shown ≤ whole := by
  have hpos : (0 : Rat) < unit := by exact_mod_cast hunit
  have hmono := h.mono (shownAs_of_dvd hunit (Nat.dvd_mul_right unit whole) hwhole) hle
  rw [Nat.cast_mul, mul_comm (unit : Rat)] at hmono
  exact le_of_mul_le_mul_right hmono hpos

/-- The last count whose kilobytes are rounded down below 1024. -/
theorem shownAs_before_carry : ShownAs 1024 1048524 (10239 / 10 * (1024 : Nat)) := by
  have hrounded : roundHalfEven (10 * 1048524) 1024 = 10239 := by decide
  have htenths := nearest_tenths 1048524 (show 0 < 1024 by decide)
  rw [hrounded] at htenths
  exact ⟨_, _, .of_value ⟨1048524, 0, by decide, by simp⟩, htenths, rfl⟩

theorem ShownAs.shown_lt_of_lt_carry (h : ShownAs 1024 n (shown * (1024 : Nat)))
    (hn : n < 1048525) : shown < 1024 := by
  have hmono := h.mono shownAs_before_carry (by omega)
  have hpos : (0 : Rat) < (1024 : Nat) := by norm_num
  exact (le_of_mul_le_mul_right hmono hpos).trans_lt (by norm_num)

/-- From there up to a megabyte, the kilobytes are rounded up to 1024. -/
theorem text_of_carry (hcarry : 1048525 ≤ n) (hn : n < 1048576) : text n = "1024.0 KB" := by
  have hfills : Fills n "KB" 1024 := .kilobytes (by omega) hn
  have hrounded : roundHalfEven (10 * n) 1024 = 10240 := by
    obtain ⟨hlow, hhigh, -⟩ := roundHalfEven_cases (10 * n) (d := 1024) (by decide)
    omega
  rw [hfills.text_eq (by omega), inUnits, significant_of_lt (by omega), hrounded]
  decide

end Bounds

theorem not_inLargestUnit_of_carry : ¬ InLargestUnit "1024.0 KB" := by
  rintro ⟨shown, name, hnumber, hsuits⟩
  have hshown : number "1024.0 KB".toList = (1024, " KB".toList) := by decide +kernel
  rw [hshown] at hnumber
  obtain ⟨rfl, hname⟩ := Prod.ext_iff.mp hnumber
  cases hsuits with
  | bytes _ => simp at hname
  | kilobytes _ hbelow => exact absurd hbelow (lt_irrefl 1024)
  | megabytes _ => simp at hname

/-- The unit is the largest that fits the number, for all counts but the last 51 below a megabyte.
These are all shown as 1024 kilobytes. -/
theorem text_inLargestUnit_iff (count : UInt64) :
    (InLargestUnit (text count.toNat) ↔ count.toNat < 1048525 ∨ 1048576 ≤ count.toNat) ∧
      (1048525 ≤ count.toNat → count.toNat < 1048576 → text count.toNat = "1024.0 KB") := by
  generalize count.toNat = n
  refine ⟨⟨fun hlargest => ?_, fun hn => ?_⟩, text_of_carry⟩
  · by_contra hcarry
    rw [text_of_carry (by omega) (by omega)] at hlargest
    exact not_inLargestUnit_of_carry hlargest
  · obtain ⟨name, unit, shown, hfills, hnumber, hshown⟩ := exists_number_text n
    refine ⟨shown, name, hnumber, ?_⟩
    cases hfills with
    | bytes hsmall =>
      have hle : shown ≤ (1023 : Nat) := hshown.shown_le (by decide) (by decide) (by omega)
      exact .bytes (hle.trans_lt (by norm_num))
    | kilobytes hkilobyte hbelow =>
      have hle : ((1 : Nat) : Rat) ≤ shown := hshown.le_shown (by decide) (by decide) (by omega)
      exact .kilobytes (by simpa using hle) (hshown.shown_lt_of_lt_carry (by omega))
    | megabytes hmegabyte =>
      have hle : ((1 : Nat) : Rat) ≤ shown := hshown.le_shown (by decide) (by decide) (by omega)
      exact .megabytes (by simpa using hle)

/-- One byte less than a megabyte is shown as 1024 of a smaller unit. -/
theorem not_inLargestUnit_below_megabyte :
    text (1048575 : UInt64).toNat = "1024.0 KB" ∧
      ¬ InLargestUnit (text (1048575 : UInt64).toNat) := by
  have htext : text (1048575 : UInt64).toNat = "1024.0 KB" :=
    text_of_carry (by decide) (by decide)
  refine ⟨htext, ?_⟩
  rw [htext]
  exact not_inLargestUnit_of_carry

end SizeGate.ByteCount
