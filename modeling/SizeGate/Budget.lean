/-!
The byte budget of an update slot and the verdict on one image.

The bound is inclusive: an image of exactly `Budget.limit` bytes still fits. The headroom is an
integer, so an image over the budget has a negative one and no size is too large to compare.
-/

namespace SizeGate

/-- An update slot and the part of it withheld from the image. The margin never exceeds the slot,
so `limit` cannot wrap around. -/
structure Budget where
  slot : UInt64
  margin : UInt64
  margin_le_slot : margin ≤ slot

namespace Budget

/-- The budget every run is held to: a slot of `0x4C0000` bytes less a margin of 256 KiB. -/
def ota : Budget where
  slot := 0x4C0000
  margin := 0x40000
  margin_le_slot := by decide

/-- The largest image that fits the slot with the margin intact. -/
def limit (budget : Budget) : UInt64 :=
  budget.slot - budget.margin

theorem limit_toNat (budget : Budget) :
    budget.limit.toNat = budget.slot.toNat - budget.margin.toNat :=
  UInt64.toNat_sub_of_le _ _ budget.margin_le_slot

theorem ota_limit : ota.limit = 4718592 := by decide

end Budget

/-- A measured image held against a budget. -/
structure Verdict where
  size : UInt64
  budget : Budget

namespace Verdict

def fits (verdict : Verdict) : Bool :=
  verdict.size ≤ verdict.budget.limit

/-- The bytes left before the budget is reached, negative when it is exceeded. -/
def headroom (verdict : Verdict) : Int :=
  (verdict.budget.limit.toNat : Int) - verdict.size.toNat

theorem fits_iff_headroom_nonneg (verdict : Verdict) :
    verdict.fits = true ↔ 0 ≤ verdict.headroom := by
  simp only [fits, headroom, decide_eq_true_eq, UInt64.le_iff_toNat_le]
  omega

end Verdict

def Budget.judge (budget : Budget) (size : UInt64) : Verdict :=
  ⟨size, budget⟩

end SizeGate
