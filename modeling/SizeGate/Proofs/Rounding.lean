import Mathlib.Algebra.Group.Nat.Even
import Mathlib.Algebra.Order.Field.Power
import Mathlib.Algebra.Order.Field.Rat
import Mathlib.Data.Nat.Log
import Mathlib.Tactic.FieldSimp
import Mathlib.Tactic.Linarith
import Mathlib.Tactic.Positivity
import Mathlib.Tactic.Ring
import SizeGate.Text.Numeral

/-!
Rounding to the nearest value, an exact half to the even one.

`Nearest` says what a number is rounded to and knows of no way to compute it. Where there is a value
between any two even ones, a number is rounded in one way only and a larger one never to less
(`Nearest.mono`). Main statements: the two roundings of a byte count are of this kind, the one to 53
significant bits (`nearest_significant`) and the one to a decimal (`nearest_tenths`).
-/

namespace SizeGate

/-- `y` is a value as near to `x` as any other is, and an even one if another is as near. -/
structure Nearest (IsValue IsEven : Rat → Prop) (x y : Rat) : Prop where
  value : IsValue y
  nearest : ∀ z, IsValue z → |x - y| ≤ |x - z|
  even : ∀ z, IsValue z → z ≠ y → |x - z| = |x - y| → IsEven y

/-- Between any two even values there is another value. -/
def Alternates (IsValue IsEven : Rat → Prop) : Prop :=
  ∀ y z, IsEven y → IsEven z → y < z → ∃ v, IsValue v ∧ y < v ∧ v < z

namespace Nearest

variable {IsValue IsEven : Rat → Prop} {x y z w : Rat}

theorem abs_sub_le_left_iff (h : y < z) : |x - y| ≤ |x - z| ↔ 2 * x ≤ y + z := by
  constructor <;> intro hle <;> rcases abs_cases (x - y) with ⟨hy, _⟩ | ⟨hy, _⟩ <;>
    rcases abs_cases (x - z) with ⟨hz, _⟩ | ⟨hz, _⟩ <;> linarith

theorem abs_sub_le_right_iff (h : y < z) : |x - z| ≤ |x - y| ↔ y + z ≤ 2 * x := by
  constructor <;> intro hle <;> rcases abs_cases (x - y) with ⟨hy, _⟩ | ⟨hy, _⟩ <;>
    rcases abs_cases (x - z) with ⟨hz, _⟩ | ⟨hz, _⟩ <;> linarith

theorem of_value (hx : IsValue x) : Nearest IsValue IsEven x x where
  value := hx
  nearest z _ := by
    rw [sub_self, abs_zero]
    exact abs_nonneg _
  even z _ hne htie := by
    rw [sub_self, abs_zero, abs_eq_zero, sub_eq_zero] at htie
    exact absurd htie.symm hne

theorem eq_of_value (h : Nearest IsValue IsEven x y) (hx : IsValue x) : y = x := by
  have hle := h.nearest x hx
  rw [sub_self, abs_zero] at hle
  exact (sub_eq_zero.mp (abs_eq_zero.mp (le_antisymm hle (abs_nonneg _)))).symm

/-- Of two values that are as near, both would be even, and one between them nearer. -/
theorem le_of_nearest (halternates : Alternates IsValue IsEven) (h : Nearest IsValue IsEven x y)
    (hother : Nearest IsValue IsEven x z) : y ≤ z := by
  by_contra hnot
  have hlt : z < y := not_le.mp hnot
  have htie : |x - z| = |x - y| :=
    le_antisymm (hother.nearest y h.value) (h.nearest z hother.value)
  obtain ⟨v, hvalue, hlow, hhigh⟩ := halternates z y
    (hother.even y h.value (ne_of_gt hlt) htie.symm) (h.even z hother.value (ne_of_lt hlt) htie) hlt
  have hmiddle := (abs_sub_le_right_iff hlt).mp htie.ge
  have hbelow := (abs_sub_le_left_iff hlow).mp (hother.nearest v hvalue)
  linarith

/-- Numbers are rounded in order. -/
theorem mono (halternates : Alternates IsValue IsEven) (h : Nearest IsValue IsEven x y)
    (hother : Nearest IsValue IsEven w z) (hle : x ≤ w) : y ≤ z := by
  by_contra hnot
  have hlt : z < y := not_le.mp hnot
  have hfirst := (abs_sub_le_right_iff hlt).mp (h.nearest z hother.value)
  have hsecond := (abs_sub_le_left_iff hlt).mp (hother.nearest y h.value)
  have hsame : w = x := by linarith
  rw [hsame] at hother
  exact hnot (le_of_nearest halternates h hother)

/-- A multiple of a step that is no more than half a step away is as near as any other. -/
theorem half_step_le {step : Rat} {q k : Nat} (hnear : |x - q * step| ≤ step / 2) (hne : k ≠ q) :
    step / 2 ≤ |x - k * step| := by
  have hstep : 0 ≤ step := by linarith [abs_nonneg (x - q * step)]
  obtain ⟨hlow, hhigh⟩ := abs_le.mp hnear
  rcases Nat.lt_or_gt_of_ne hne with hlt | hgt
  · have hcast : (k : Rat) + 1 ≤ q := by exact_mod_cast hlt
    have hmul := mul_le_mul_of_nonneg_right hcast hstep
    exact le_abs.mpr (.inl (by linarith))
  · have hcast : (q : Rat) + 1 ≤ k := by exact_mod_cast hgt
    have hmul := mul_le_mul_of_nonneg_right hcast hstep
    exact le_abs.mpr (.inr (by linarith))

end Nearest

/-- A number of at most 53 significant bits. -/
def IsDouble (x : Rat) : Prop :=
  ∃ (significand : Nat) (exponent : Int), significand < 9007199254740992 ∧
    x = significand * 2 ^ exponent

/-- A number of 53 significant bits, of which the last is zero. -/
def IsEvenDouble (x : Rat) : Prop :=
  ∃ (significand : Nat) (exponent : Int), 4503599627370496 ≤ significand ∧
    significand < 9007199254740992 ∧ Even significand ∧ x = significand * 2 ^ exponent

/-- A number with one decimal. -/
def IsTenths (x : Rat) : Prop :=
  ∃ tenths : Nat, x = tenths / 10

/-- A number with one decimal, which is an even digit. -/
def IsEvenTenths (x : Rat) : Prop :=
  ∃ tenths : Nat, Even tenths ∧ x = tenths / 10

theorem alternates_tenths : Alternates IsTenths IsEvenTenths := by
  rintro _ _ ⟨j, hj, rfl⟩ ⟨k, hk, rfl⟩ hlt
  have hless : (j : Rat) < k := by linarith
  have hroom : j + 1 < k := by
    have hcast : j < k := by exact_mod_cast hless
    obtain ⟨a, rfl⟩ := hj
    obtain ⟨b, rfl⟩ := hk
    omega
  have hcast : (j : Rat) + 1 < k := by exact_mod_cast hroom
  refine ⟨_, ⟨j + 1, rfl⟩, ?_, ?_⟩ <;> push_cast <;> linarith

section Doubles

variable {significand : Nat} {e f : Int}

theorem two_zpow_pos (e : Int) : (0 : Rat) < 2 ^ e :=
  zpow_pos (by norm_num) e

theorem exists_mul_two_zpow (h : e ≤ f) : ∃ j : Nat, (2 : Rat) ^ f = j * 2 ^ e := by
  obtain ⟨j, rfl⟩ := Int.le.dest h
  refine ⟨2 ^ j, ?_⟩
  rw [zpow_add₀ (by norm_num), zpow_natCast, mul_comm]
  push_cast
  rfl

/-- With a smaller exponent, no double reaches the first one that has all its bits. -/
theorem lt_of_exponent_lt (hs : significand < 9007199254740992) (h : f < e) :
    (significand : Rat) * 2 ^ f < 4503599627370496 * 2 ^ e := by
  have hpow : (2 : Rat) ^ f * 2 ≤ 2 ^ e := by
    rw [← zpow_add_one₀ (by norm_num)]
    exact zpow_le_zpow_right₀ (by norm_num) h
  have hcast : (significand : Rat) < 9007199254740992 := by exact_mod_cast hs
  have hmul := mul_lt_mul_of_pos_right hcast (two_zpow_pos f)
  linarith

/-- The double next to an even one has the same exponent, and it is not even. -/
theorem alternates_double : Alternates IsDouble IsEvenDouble := by
  rintro _ _ ⟨s, e, hlow, hhigh, hs, rfl⟩ ⟨t, f, -, hlimit, ht, rfl⟩ hlt
  have hstep := two_zpow_pos e
  have hexponent : e ≤ f := by
    by_contra hnot
    have hbelow := lt_of_exponent_lt hlimit (not_le.mp hnot)
    have hcast : (4503599627370496 : Rat) ≤ s := by exact_mod_cast hlow
    have hmul := mul_le_mul_of_nonneg_right hcast hstep.le
    linarith
  obtain ⟨j, hj⟩ := exists_mul_two_zpow hexponent
  rw [hj, ← mul_assoc] at hlt ⊢
  have hroom : s + 1 < t * j := by
    have hless : s < t * j := by exact_mod_cast lt_of_mul_lt_mul_right hlt hstep.le
    obtain ⟨a, ha⟩ := hs
    obtain ⟨b, hb⟩ := ht.mul_right j
    omega
  refine ⟨(s + 1 : Nat) * 2 ^ e, ⟨s + 1, e, ?_, rfl⟩, ?_, ?_⟩
  · obtain ⟨a, rfl⟩ := hs
    omega
  · push_cast
    linarith
  · exact mul_lt_mul_of_pos_right (by exact_mod_cast hroom) hstep

/-- Up to the power of two behind them, all significands with 53 bits give doubles. -/
theorem isDouble_of_significand (hlow : 4503599627370496 ≤ significand)
    (hhigh : significand ≤ 9007199254740992) (e : Int) :
    IsDouble (significand * 2 ^ e) ∧ (Even significand → IsEvenDouble (significand * 2 ^ e)) := by
  rcases Nat.lt_or_eq_of_le hhigh with hless | rfl
  · exact ⟨⟨_, e, hless, rfl⟩, fun heven => ⟨_, e, hlow, hless, heven, rfl⟩⟩
  · have hcarry : ((9007199254740992 : Nat) : Rat) * 2 ^ e =
        (4503599627370496 : Nat) * 2 ^ (e + 1) := by
      rw [zpow_add_one₀ (by norm_num)]
      push_cast
      ring
    rw [hcarry]
    exact ⟨⟨_, e + 1, by decide, rfl⟩, fun _ => ⟨_, e + 1, by decide, by decide, by decide, rfl⟩⟩

end Doubles

namespace ByteCount

theorem roundHalfEven_cases (n : Nat) {d : Nat} (hd : 0 < d) :
    let q := roundHalfEven n d
    2 * n ≤ 2 * (q * d) + d ∧ 2 * (q * d) ≤ 2 * n + d ∧
      (2 * n = 2 * (q * d) + d ∨ 2 * (q * d) = 2 * n + d → q % 2 = 0) := by
  have hdiv := Nat.div_add_mod' n d
  have hmod := Nat.mod_lt n hd
  simp only [roundHalfEven]
  split
  · omega
  · rw [Nat.add_mul, Nat.one_mul]
    omega

/-- The multiple of `d` that `n` is rounded to is no more than half of `d` away, and an even one if
it is just that far away. -/
theorem abs_sub_roundHalfEven (n : Nat) {d : Nat} (hd : 0 < d) :
    |(n : Rat) - roundHalfEven n d * d| ≤ d / 2 ∧
      (|(n : Rat) - roundHalfEven n d * d| = d / 2 → Even (roundHalfEven n d)) := by
  obtain ⟨hlow, hhigh, htie⟩ := roundHalfEven_cases n hd
  generalize roundHalfEven n d = q at hlow hhigh htie
  have hbelow : (2 : Rat) * n ≤ 2 * (q * d) + d := by exact_mod_cast hlow
  have habove : (2 : Rat) * (q * d) ≤ 2 * n + d := by exact_mod_cast hhigh
  refine ⟨abs_le.mpr ⟨by linarith, by linarith⟩, fun heq => Nat.even_iff.mpr (htie ?_)⟩
  rcases eq_or_eq_neg_of_abs_eq heq with hpos | hneg
  · have hfar : (2 : Rat) * n = 2 * (q * d) + d := by linarith
    exact .inl (by exact_mod_cast hfar)
  · have hfar : (2 : Rat) * (q * d) = 2 * n + d := by linarith
    exact .inr (by exact_mod_cast hfar)

theorem significant_of_lt {n : Nat} (hn : n < 9007199254740992) : significant 53 n = n := by
  have hstep : n.log2 + 1 - 53 = 0 := by
    rcases Nat.eq_zero_or_pos n with rfl | hpos
    · rfl
    · have hlog := (Nat.log2_lt (Nat.ne_of_gt hpos)).mpr (show n < 2 ^ 53 from hn)
      omega
  obtain ⟨hlow, hhigh, -⟩ := roundHalfEven_cases n (d := 1) (by decide)
  rw [significant, hstep, Nat.pow_eq, Nat.pow_zero]
  omega

/-- A number of more than 53 bits is rounded to a multiple of the power of two at which it has just
53 bits. -/
theorem exists_significand {n : Nat} (hn : 9007199254740992 ≤ n) : ∃ q k : Nat,
    significant 53 n = q * 2 ^ k ∧ k = n.log2 - 52 ∧ 4503599627370496 * 2 ^ k ≤ n ∧
      4503599627370496 ≤ q ∧ q ≤ 9007199254740992 ∧ |(n : Rat) - q * 2 ^ k| ≤ 2 ^ k / 2 ∧
      (|(n : Rat) - q * 2 ^ k| = 2 ^ k / 2 → Even q) := by
  have hne : n ≠ 0 := by omega
  have hlog : 53 ≤ n.log2 := (Nat.le_log2 hne).mpr hn
  obtain ⟨k, hk⟩ : ∃ k, n.log2 = 52 + k := ⟨n.log2 - 52, by omega⟩
  have hself := Nat.log2_self_le hne
  have hnext := Nat.lt_log2_self (n := n)
  rw [hk, Nat.pow_add] at hself
  rw [hk, Nat.add_right_comm, Nat.pow_add] at hnext
  obtain ⟨hnear, htie⟩ := abs_sub_roundHalfEven n (Nat.two_pow_pos k)
  obtain ⟨hbelow, habove, -⟩ := roundHalfEven_cases n (Nat.two_pow_pos k)
  have hsignificant : significant 53 n = roundHalfEven n (2 ^ k) * 2 ^ k := by
    rw [significant, Nat.pow_eq, show n.log2 + 1 - 53 = k by omega]
  generalize roundHalfEven n (2 ^ k) = q at hnear htie hbelow habove hsignificant
  refine ⟨q, k, hsignificant, by omega, hself, ?_, ?_, by exact_mod_cast hnear,
    by exact_mod_cast htie⟩
  · by_contra hnot
    have hmul : (q + 1) * 2 ^ k ≤ 4503599627370496 * 2 ^ k := Nat.mul_le_mul_right _ (by omega)
    rw [Nat.add_mul] at hmul
    omega
  · by_contra hnot
    have hmul : (9007199254740992 + 1) * 2 ^ k ≤ q * 2 ^ k := Nat.mul_le_mul_right _ (by omega)
    rw [Nat.add_mul] at hmul
    omega

/-- A double with the exponent of the step or a larger one is a multiple of the step. One with a
smaller exponent lies below the least multiple that has all its bits. -/
theorem nearest_significant (n : Nat) :
    Nearest IsDouble IsEvenDouble n (significant 53 n : Nat) := by
  rcases Nat.lt_or_ge n 9007199254740992 with hsmall | hlarge
  · rw [significant_of_lt hsmall]
    exact .of_value ⟨n, 0, hsmall, by simp⟩
  obtain ⟨q, k, hsignificant, -, hself, hlow, hhigh, hnear, htie⟩ := exists_significand hlarge
  obtain ⟨hdouble, heven⟩ := isDouble_of_significand hlow hhigh k
  have hleast : (4503599627370496 : Rat) * 2 ^ k ≤ n := by exact_mod_cast hself
  have hbelow : |(n : Rat) - q * 2 ^ k| ≤ n - 4503599627370496 * 2 ^ k := by
    by_cases hq : 4503599627370496 = q
    · rw [← hq]
      exact (abs_of_nonneg (by push_cast; linarith)).le
    · have hhalf := Nearest.half_step_le hnear hq
      push_cast at hhalf
      rw [abs_of_nonneg (sub_nonneg.mpr hleast)] at hhalf
      exact hnear.trans hhalf
  have hothers : ∀ z, IsDouble z → z ≠ q * 2 ^ k →
      2 ^ k / 2 ≤ |(n : Rat) - z| ∨ |(n : Rat) - q * 2 ^ k| < |(n : Rat) - z| := by
    rintro _ ⟨s, e, hs, rfl⟩ hne
    by_cases hexponent : (k : Int) ≤ e
    · obtain ⟨j, hj⟩ := exists_mul_two_zpow hexponent
      have hmultiple : (s : Rat) * 2 ^ e = (s * j : Nat) * 2 ^ k := by
        rw [hj, zpow_natCast, ← mul_assoc, Nat.cast_mul]
      rw [hmultiple] at hne ⊢
      refine .inl (Nearest.half_step_le hnear ?_)
      rintro rfl
      exact hne rfl
    · have hsmaller := lt_of_exponent_lt hs (not_le.mp hexponent)
      rw [zpow_natCast] at hsmaller
      exact .inr (lt_abs.mpr (.inl (by linarith)))
  rw [hsignificant, Nat.cast_mul, Nat.cast_pow, Nat.cast_ofNat]
  refine ⟨hdouble, fun z hz => ?_, fun z hz hne htied => ?_⟩
  · by_cases hne : z = q * 2 ^ k
    · rw [hne]
    · rcases hothers z hz hne with hfar | hfar <;> linarith
  · rcases hothers z hz hne with hfar | hfar
    · exact heven (htie (by linarith))
    · linarith

/-- Rounded to 53 significant bits, a count of up to 53 bits stays what it is. -/
theorem significant_of_le {n : Nat} (hn : n ≤ 9007199254740992) : significant 53 n = n := by
  have hdouble : IsDouble n := by
    rcases Nat.lt_or_eq_of_le hn with hless | rfl
    · exact ⟨n, 0, hless, by simp⟩
    · exact ⟨4503599627370496, 1, by decide, by norm_num⟩
  exact_mod_cast (nearest_significant n).eq_of_value hdouble

/-- Rounded to 53 significant bits, a count of 64 bits is off by half of the last eleven at most. -/
theorem abs_sub_significant_le {n : Nat} (hn : n < 18446744073709551616) :
    |(n : Rat) - significant 53 n| ≤ 1024 := by
  rcases Nat.lt_or_ge n 9007199254740992 with hsmall | hlarge
  · rw [significant_of_lt hsmall]
    norm_num
  obtain ⟨q, k, hsignificant, hk, -, -, -, hnear, -⟩ := exists_significand hlarge
  have hlog : n.log2 < 64 := (Nat.log2_lt (by omega)).mpr hn
  have hpow : (2 : Rat) ^ k ≤ 2 ^ 11 := pow_le_pow_right₀ (by norm_num) (by omega)
  rw [hsignificant, Nat.cast_mul, Nat.cast_pow, Nat.cast_ofNat]
  linarith

/-- The decimal of a quotient is no more than half of a tenth away, and an even one if it is just
that far away. -/
theorem abs_sub_tenths (n : Nat) {unit : Nat} (hunit : 0 < unit) :
    |(n : Rat) / unit - roundHalfEven (10 * n) unit * (1 / 10)| ≤ 1 / 10 / 2 ∧
      (1 / 10 / 2 ≤ |(n : Rat) / unit - roundHalfEven (10 * n) unit * (1 / 10)| →
        Even (roundHalfEven (10 * n) unit)) := by
  have hpos : (0 : Rat) < 10 * unit := by exact_mod_cast Nat.mul_pos (by decide) hunit
  obtain ⟨hnear, htie⟩ := abs_sub_roundHalfEven (10 * n) hunit
  generalize roundHalfEven (10 * n) unit = q at hnear htie ⊢
  have hscaled : |((10 * n : Nat) : Rat) - q * unit| =
      |(n : Rat) / unit - q * (1 / 10)| * (10 * unit) := by
    rw [← abs_of_pos hpos, ← abs_mul]
    congr 1
    push_cast
    field_simp
  rw [hscaled] at hnear htie
  have hhalf : |(n : Rat) / unit - q * (1 / 10)| ≤ 1 / 10 / 2 := by
    refine le_of_mul_le_mul_right ?_ hpos
    linarith
  refine ⟨hhalf, fun hfar => htie ?_⟩
  rw [le_antisymm hhalf hfar]
  ring

theorem nearest_tenths (n : Nat) {unit : Nat} (hunit : 0 < unit) :
    Nearest IsTenths IsEvenTenths (n / unit) (roundHalfEven (10 * n) unit / 10) := by
  obtain ⟨hhalf, heven⟩ := abs_sub_tenths n hunit
  generalize roundHalfEven (10 * n) unit = q at hhalf heven ⊢
  rw [div_eq_mul_one_div (q : Rat) 10]
  refine ⟨⟨q, by ring⟩, ?_, ?_⟩
  · rintro _ ⟨j, rfl⟩
    rw [div_eq_mul_one_div (j : Rat) 10]
    by_cases hj : j = q
    · rw [hj]
    · exact hhalf.trans (Nearest.half_step_le hhalf hj)
  · rintro _ ⟨j, rfl⟩ hne htied
    rw [div_eq_mul_one_div (j : Rat) 10] at hne htied
    have hj : j ≠ q := by
      rintro rfl
      exact hne rfl
    exact ⟨q, heven ((Nearest.half_step_le hhalf hj).trans htied.le), by ring⟩

end ByteCount

end SizeGate
