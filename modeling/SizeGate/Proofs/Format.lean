import Mathlib.Data.List.Forall2
import SizeGate.Report

/-!
Names of formats in any case.

`EqUpToCase` compares texts letter by letter and knows of no lower case. Main statement: a name is
read in any case exactly if it is the name of a format up to the case of its ASCII letters
(`ofAnyCase?_eq_some_iff`). Letters beyond ASCII have no other case here.
-/

namespace SizeGate

/-- Two characters are the same but for the case of an ASCII letter. -/
inductive SameLetter : Char → Char → Prop where
  | same (c : Char) : SameLetter c c
  | upper {c d : Char} : 'A' ≤ c → c ≤ 'Z' → c.toNat + 32 = d.toNat → SameLetter c d
  | lower {c d : Char} : 'A' ≤ d → d ≤ 'Z' → d.toNat + 32 = c.toNat → SameLetter c d

/-- Two texts are the same but for the case of ASCII letters. -/
def EqUpToCase (text other : String) : Prop :=
  List.Forall₂ SameLetter text.toList other.toList

namespace Format

private theorem toNat_toLower (c : Char) :
    c.toLower.toNat = if 65 ≤ c.toNat ∧ c.toNat ≤ 90 then c.toNat + 32 else c.toNat := by
  have hupper : c.val ≥ 'A'.val ∧ c.val ≤ 'Z'.val ↔ 65 ≤ c.toNat ∧ c.toNat ≤ 90 := Iff.rfl
  unfold Char.toLower
  split
  · next h =>
    have hrange := hupper.mp h
    have hsum : (c.val + 32).toNat = c.toNat + 32 := by
      rw [UInt32.toNat_add]
      exact Nat.mod_eq_of_lt (by change c.toNat + 32 < 4294967296; omega)
    rw [if_pos hrange, ← hsum]
    rfl
  · next h => rw [if_neg (mt hupper.mpr h)]

theorem toLower_eq_toLower_iff (c d : Char) : c.toLower = d.toLower ↔ SameLetter c d := by
  rw [← Char.toNat_inj, toNat_toLower, toNat_toLower]
  constructor
  · intro h
    by_cases hc : 65 ≤ c.toNat ∧ c.toNat ≤ 90
    · by_cases hd : 65 ≤ d.toNat ∧ d.toNat ≤ 90
      · rw [if_pos hc, if_pos hd] at h
        have heq : c.toNat = d.toNat := by omega
        rw [Char.toNat_inj.mp heq]
        exact .same d
      · rw [if_pos hc, if_neg hd] at h
        exact .upper hc.1 hc.2 h
    · by_cases hd : 65 ≤ d.toNat ∧ d.toNat ≤ 90
      · rw [if_neg hc, if_pos hd] at h
        exact .lower hd.1 hd.2 h.symm
      · rw [if_neg hc, if_neg hd] at h
        rw [Char.toNat_inj.mp h]
        exact .same d
  · intro h
    cases h with
    | same => rfl
    | upper hlow hhigh heq =>
      have hrange : 65 ≤ c.toNat ∧ c.toNat ≤ 90 := ⟨hlow, hhigh⟩
      rw [if_pos hrange, if_neg (by omega), heq]
    | lower hlow hhigh heq =>
      have hrange : 65 ≤ d.toNat ∧ d.toNat ≤ 90 := ⟨hlow, hhigh⟩
      rw [if_neg (by omega), if_pos hrange, heq]

theorem lowerAscii_eq_lowerAscii_iff (text other : String) :
    lowerAscii text = lowerAscii other ↔ EqUpToCase text other := by
  rw [EqUpToCase, lowerAscii, lowerAscii, String.ofList_inj, ← List.forall₂_eq_eq_eq,
    List.forall₂_map_left_iff, List.forall₂_map_right_iff]
  simp only [toLower_eq_toLower_iff]

theorem ofName?_eq_some_iff (name : String) (format : Format) :
    ofName? name = some format ↔ name = format.name := by
  constructor
  · intro h
    simp only [ofName?] at h
    split at h
    · next hname =>
      cases h
      exact hname
    split at h
    · next hname =>
      cases h
      exact hname
    · cases h
  · rintro rfl
    exact ofName?_name format

theorem ofAnyCase?_eq_some_iff (name : String) (format : Format) :
    ofAnyCase? name = some format ↔ EqUpToCase name format.name := by
  have hlower : lowerAscii format.name = format.name := by cases format <;> decide
  rw [ofAnyCase?, ofName?_eq_some_iff, ← lowerAscii_eq_lowerAscii_iff, hlower]

theorem ofAnyCase?_eq_none_iff (name : String) :
    ofAnyCase? name = none ↔ ∀ format : Format, ¬ EqUpToCase name format.name := by
  rw [Option.eq_none_iff_forall_ne_some]
  simp only [ne_eq, ofAnyCase?_eq_some_iff]

end Format

end SizeGate
