import SizeGate.Text.Numeral

/-!
Digits and the numbers that they stand for.

Main statements: the decimal digits of a number are read back as the number
(`ofDigitChars_toList_ofNat`), they are digits only (`isDigit_of_mem_ofNat`), and only zero begins
with a zero (`head_toDigits_ne_zero`). A hexadecimal digit is read back likewise
(`digitValue?_digitChar`).
-/

namespace SizeGate

theorem Text.digitValue?_digitChar {d : Nat} (h : d < 16) :
    Text.digitValue? 16 (Nat.digitChar d) = some d := by
  have hall : ∀ d < 16, Text.digitValue? 16 (Nat.digitChar d) = some d := by decide
  exact hall d h

namespace Decimal

theorem toList_ofNat (n : Nat) : (ofNat n).toList = Nat.toDigits 10 n := by
  exact Nat.toList_repr

theorem ofDigitChars_toList_ofNat (n : Nat) : Nat.ofDigitChars 10 (ofNat n).toList 0 = n := by
  rw [toList_ofNat, Nat.ofDigitChars_ten_toDigits]

theorem isDigit_of_mem_ofNat {n : Nat} {c : Char} (h : c ∈ (ofNat n).toList) :
    c.isDigit = true := by
  rw [toList_ofNat] at h
  exact Nat.isDigit_of_mem_toDigits (by decide) (by decide) h

theorem toList_ofNat_ne_nil (n : Nat) : (ofNat n).toList ≠ [] := by
  rw [toList_ofNat]
  exact Nat.toDigits_ne_nil

/-- A number but zero has no zero in front. The induction is on its digits, last to first. -/
theorem head_toDigits_ne_zero {n : Nat} (h : n ≠ 0) :
    ∃ d digits, Nat.toDigits 10 n = d :: digits ∧ d ≠ '0' := by
  induction n using Nat.strongRecOn with
  | ind n ih =>
    rw [Nat.toDigits_eq_if (by decide)]
    split
    · next hsmall =>
      have hdigit : ∀ d < 10, d ≠ 0 → Nat.digitChar d ≠ '0' := by decide
      exact ⟨_, [], rfl, hdigit n hsmall h⟩
    · next hlarge =>
      obtain ⟨d, digits, hdigits, hd⟩ := ih (n / 10) (by omega) (by omega)
      exact ⟨d, _, by rw [hdigits, List.cons_append], hd⟩

end Decimal

end SizeGate
