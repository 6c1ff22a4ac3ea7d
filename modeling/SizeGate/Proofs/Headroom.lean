import SizeGate.Proofs.Report.Decoding

/-!
The headroom, for every budget and every size.

The headroom is defined on integers. A machine takes the limit from words of 64 bits, the headroom
from words of 128, and gives it to the report in 64 bits with a sign; `wideHeadroom` and `saturate`
say how. Main statement: none of these steps goes beyond its width, so the machine gets the exact
headroom, and what a report says of it has its sign and goes down as the size goes up
(`headroom_on_machine`).
-/

namespace SizeGate

namespace Verdict

variable (verdict : Verdict)

/-- A word of 64 bits in one of 128. -/
def widen (word : UInt64) : BitVec 128 :=
  word.toBitVec.setWidth 128

/-- The headroom as a machine takes it, by one subtraction of words with a sign. -/
def wideHeadroom : BitVec 128 :=
  widen verdict.budget.limit - widen verdict.size

theorem toInt_widen (word : UInt64) : (widen word).toInt = word.toNat := by
  have hsmall : word.toNat < 2 ^ 64 := word.toNat_lt
  have hword : (widen word).toNat = word.toNat := by
    rw [widen, BitVec.toNat_setWidth, UInt64.toNat_toBitVec]
    exact Nat.mod_eq_of_lt (by omega)
  rw [BitVec.toInt_eq_toNat_of_lt (by omega), hword]

/-- The difference of two words of 64 bits has room in 128 bits with a sign. -/
theorem ssubOverflow_widen (word other : UInt64) :
    BitVec.ssubOverflow (widen word) (widen other) = false := by
  have hword : word.toNat < 2 ^ 64 := word.toNat_lt
  have hother : other.toNat < 2 ^ 64 := other.toNat_lt
  rw [BitVec.ssubOverflow, toInt_widen, toInt_widen, Bool.or_eq_false_iff, decide_eq_false_iff_not,
    decide_eq_false_iff_not]
  omega

theorem toInt_wideHeadroom : verdict.wideHeadroom.toInt = verdict.headroom := by
  have hroom := ssubOverflow_widen verdict.budget.limit verdict.size
  rw [wideHeadroom, BitVec.toInt_sub_of_not_ssubOverflow (by simp [hroom]), toInt_widen,
    toInt_widen]
  rfl

theorem headroom_add_size :
    verdict.headroom + verdict.size.toNat =
      verdict.budget.slot.toNat - verdict.budget.margin.toNat := by
  have hmargin : verdict.budget.margin.toNat ≤ verdict.budget.slot.toNat :=
    UInt64.le_iff_toNat_le.mp verdict.budget.margin_le_slot
  rw [headroom, Budget.limit_toNat]
  omega

theorem fits_iff_size_le : verdict.fits = true ↔
    (verdict.size.toNat : Int) ≤ verdict.budget.slot.toNat - verdict.budget.margin.toNat := by
  rw [fits_iff_headroom_nonneg, ← verdict.headroom_add_size]
  omega

end Verdict

namespace Budget

theorem usubOverflow_slot_margin (budget : Budget) :
    BitVec.usubOverflow budget.slot.toBitVec budget.margin.toBitVec = false := by
  rw [BitVec.usubOverflow, decide_eq_false_iff_not, not_lt]
  exact UInt64.le_iff_toNat_le.mp budget.margin_le_slot

end Budget

namespace Report

/-- A number as a machine puts it into 64 bits with a sign. One that has no room there becomes the
smallest or the largest that has, by its sign. -/
def saturate (n : Int) : Int64 :=
  if Int64.minValue.toInt ≤ n ∧ n ≤ Int64.maxValue.toInt then Int64.ofInt n
  else if n < 0 then Int64.minValue
  else Int64.maxValue

theorem clamp_eq (n : Int) :
    clamp n = max Int64.minValue.toInt (min n Int64.maxValue.toInt) := rfl

theorem toInt_saturate (n : Int) : (saturate n).toInt = clamp n := by
  have hmin : Int64.minValue.toInt = -0x8000000000000000 := rfl
  have hmax : Int64.maxValue.toInt = 0x7FFFFFFFFFFFFFFF := rfl
  rw [saturate, clamp_eq, hmin, hmax]
  split
  · next h =>
    rw [Int64.toInt_ofInt_of_le (by omega) (by omega)]
    omega
  split
  · rw [hmin]
    omega
  · rw [hmax]
    omega

theorem clamp_of_mem {n : Int} (hlow : Int64.minValue.toInt ≤ n)
    (hhigh : n ≤ Int64.maxValue.toInt) : clamp n = n := by
  rw [clamp_eq]
  omega

theorem clamp_of_lt {n : Int} (h : n < Int64.minValue.toInt) :
    clamp n = Int64.minValue.toInt := by
  rw [clamp_eq]
  omega

theorem clamp_of_gt {n : Int} (h : Int64.maxValue.toInt < n) :
    clamp n = Int64.maxValue.toInt := by
  have hrange : Int64.minValue.toInt ≤ Int64.maxValue.toInt := by decide
  rw [clamp_eq]
  omega

theorem clamp_nonneg_iff (n : Int) : 0 ≤ clamp n ↔ 0 ≤ n := by
  rw [clamp]
  omega

theorem sign_clamp (n : Int) : (clamp n).sign = n.sign := by
  rcases Int.lt_trichotomy n 0 with hneg | rfl | hpos
  · rw [Int.sign_eq_neg_one_of_neg hneg, Int.sign_eq_neg_one_of_neg]
    rw [clamp]
    omega
  · rfl
  · rw [Int.sign_eq_one_of_pos hpos, Int.sign_eq_one_of_pos]
    rw [clamp]
    omega

theorem clamp_mono {n m : Int} (h : n ≤ m) : clamp n ≤ clamp m := by
  rw [clamp, clamp]
  omega

/-- A larger artifact leaves no more headroom. -/
theorem reportedHeadroom_antitone (budget : Budget) {size other : UInt64} (h : size ≤ other) :
    reportedHeadroom (budget.judge other) ≤ reportedHeadroom (budget.judge size) := by
  have hsize : size.toNat ≤ other.toNat := UInt64.le_iff_toNat_le.mp h
  apply clamp_mono
  rw [Verdict.headroom, Verdict.headroom]
  simp only [Budget.judge]
  omega

/-- A program that reads the report finds the headroom in it, and next to it whether that is
negative. -/
theorem exists_members_json (time : String) (artifact : Path) (verdict : Verdict) :
    ∃ members, Json.read? (json time artifact verdict) = some (.object members) ∧
      members.lookup "headroom_bytes" = some (.number (reportedHeadroom verdict)) ∧
      members.lookup "passed" = some (.boolean (decide (0 ≤ reportedHeadroom verdict))) := by
  have hpassed : verdict.fits = decide (0 ≤ reportedHeadroom verdict) := by
    rw [Bool.eq_iff_iff, decide_eq_true_iff, reportedHeadroom, clamp_nonneg_iff]
    exact verdict.fits_iff_headroom_nonneg
  refine ⟨_, read?_json time artifact verdict, rfl, ?_⟩
  rw [← hpassed]
  rfl

/-- For every budget and every size, taking the margin from the slot and the size from the limit
stays within the width of the words, so a machine gets the exact headroom. An artifact fits exactly
if it is no larger than the slot less the margin, which is exactly if the headroom is not negative,
and headroom and size make up the slot less the margin. A report gives the exact headroom if that
has room in 64 bits with a sign and otherwise the end of that range that is nearer. That has the
sign of the exact one, so it says the same as the verdict in the report, and it never grows with the
size. -/
theorem headroom_on_machine (budget : Budget) :
    BitVec.usubOverflow budget.slot.toBitVec budget.margin.toBitVec = false ∧
    (∀ size, let verdict := budget.judge size
      BitVec.ssubOverflow (Verdict.widen budget.limit) (Verdict.widen size) = false ∧
      verdict.wideHeadroom.toInt = verdict.headroom ∧
      (saturate verdict.headroom).toInt = reportedHeadroom verdict ∧
      (verdict.fits = true ↔ (size.toNat : Int) ≤ budget.slot.toNat - budget.margin.toNat) ∧
      (verdict.fits = true ↔ 0 ≤ verdict.headroom) ∧
      verdict.headroom + size.toNat = budget.slot.toNat - budget.margin.toNat ∧
      (Int64.minValue.toInt ≤ verdict.headroom → verdict.headroom ≤ Int64.maxValue.toInt →
        reportedHeadroom verdict = verdict.headroom) ∧
      (verdict.headroom < Int64.minValue.toInt →
        reportedHeadroom verdict = Int64.minValue.toInt) ∧
      (Int64.maxValue.toInt < verdict.headroom →
        reportedHeadroom verdict = Int64.maxValue.toInt) ∧
      (reportedHeadroom verdict).sign = verdict.headroom.sign ∧
      ∀ time artifact, ∃ members, Json.read? (json time artifact verdict) = some (.object members) ∧
        members.lookup "headroom_bytes" = some (.number (reportedHeadroom verdict)) ∧
        members.lookup "passed" = some (.boolean (decide (0 ≤ reportedHeadroom verdict)))) ∧
    ∀ size other, size ≤ other →
      reportedHeadroom (budget.judge other) ≤ reportedHeadroom (budget.judge size) := by
  refine ⟨budget.usubOverflow_slot_margin, fun size => ?_, fun _ _ => reportedHeadroom_antitone _⟩
  intro verdict
  exact ⟨Verdict.ssubOverflow_widen _ _, verdict.toInt_wideHeadroom, toInt_saturate _,
    verdict.fits_iff_size_le, verdict.fits_iff_headroom_nonneg, verdict.headroom_add_size,
    clamp_of_mem, clamp_of_lt, clamp_of_gt, sign_clamp _,
    fun time artifact => exists_members_json time artifact verdict⟩

/-- The largest artifact there is has less headroom than a report can say. -/
example : (Budget.ota.judge 0xFFFFFFFFFFFFFFFF).headroom = -18446744073704833023 ∧
    reportedHeadroom (Budget.ota.judge 0xFFFFFFFFFFFFFFFF) = -9223372036854775808 := by
  decide

end Report

end SizeGate
