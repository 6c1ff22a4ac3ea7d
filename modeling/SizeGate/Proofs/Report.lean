import SizeGate.Report

/-!
What a complete report says, with every figure of the budget spelled out.

`IsComplete` does not mention a budget: the slot, the margin and the limit stand in it as numbers.
Main statements: the reports on an image held against the budget of every run are complete
(`isComplete_text`, `isComplete_json`).
-/

namespace SizeGate.Report

/-- The line of a verdict, where color goes around its first word. -/
def verdictLine (colored fits : Bool) : String :=
  match colored, fits with
  | false, true => "OK: app binary within OTA slot budget.\n"
  | false, false => "ERROR: app binary exceeds OTA slot budget.\n"
  | true, true => "\x1b[0m\x1b[1m\x1b[32mOK\x1b[0m: app binary within OTA slot budget.\n"
  | true, false => "\x1b[0m\x1b[1m\x1b[31mERROR\x1b[0m: app binary exceeds OTA slot budget.\n"

/-- The text is the whole report of a format on an artifact of `size` bytes. -/
inductive IsComplete (time : String) (artifact : Path) (size : UInt64) :
    Format → String → Prop where
  | text (colored : Bool) : IsComplete time artifact size .text
      ("App binary: " ++ Decimal.ofNat size.toNat ++ " bytes\n"
        ++ "Budget:     4718592 bytes (slot 4980736 - margin 262144)\n"
        ++ verdictLine colored (size.toNat ≤ 4718592))
  | json : IsComplete time artifact size .json
      (Json.pretty (.object [
        ("timestamp", .string time),
        ("artifact", .string artifact.display),
        ("size_bytes", .number size.toNat),
        ("budget", .object [
          ("slot_bytes", .number 4980736),
          ("margin_bytes", .number 262144),
          ("max_app_bytes", .number 4718592)]),
        ("headroom_bytes", .number (clamp (4718592 - size.toNat))),
        ("passed", .boolean (size.toNat ≤ 4718592))]) ++ "\n")

/-- The largest image that fits, as a number. -/
theorem fits_ota (size : UInt64) :
    (Budget.ota.judge size).fits = decide (size.toNat ≤ 4718592) := by
  simp [Verdict.fits, Budget.judge, Budget.ota_limit, UInt64.le_iff_toNat_le]

private theorem budget_line :
    "Budget:     " ++ Decimal.ofNat Budget.ota.limit.toNat ++ " bytes (slot "
      ++ Decimal.ofNat Budget.ota.slot.toNat ++ " - margin "
      ++ Decimal.ofNat Budget.ota.margin.toNat ++ ")\n" =
    "Budget:     4718592 bytes (slot 4980736 - margin 262144)\n" := by decide

theorem verdict_line (colored fits : Bool) :
    (if colored then highlight (colorOf fits) (word fits) else word fits) ++ explanation fits =
      verdictLine colored fits := by
  cases colored <;> cases fits <;> decide

theorem text_ota (colored : Bool) (size : UInt64) :
    text colored (Budget.ota.judge size) =
      "App binary: " ++ Decimal.ofNat size.toNat ++ " bytes\n"
        ++ "Budget:     4718592 bytes (slot 4980736 - margin 262144)\n"
        ++ verdictLine colored (size.toNat ≤ 4718592) := by
  have hsize : (Budget.ota.judge size).size = size := rfl
  have hbudget : (Budget.ota.judge size).budget = Budget.ota := rfl
  rw [← budget_line, ← verdict_line, ← fits_ota size]
  unfold text
  simp only [String.append_assoc]
  rw [hsize, hbudget]

private theorem fields_ota (time : String) (artifact : Path) (size : UInt64) :
    fields time artifact (Budget.ota.judge size) = .object [
      ("timestamp", .string time),
      ("artifact", .string artifact.display),
      ("size_bytes", .number size.toNat),
      ("budget", .object [
        ("slot_bytes", .number 4980736),
        ("margin_bytes", .number 262144),
        ("max_app_bytes", .number 4718592)]),
      ("headroom_bytes", .number (clamp (4718592 - size.toNat))),
      ("passed", .boolean (size.toNat ≤ 4718592))] := by
  have hslot : (Budget.ota.slot.toNat : Int) = 4980736 := by decide
  have hmargin : (Budget.ota.margin.toNat : Int) = 262144 := by decide
  have hlimit : (Budget.ota.limit.toNat : Int) = 4718592 := by decide
  rw [fields, fits_ota, reportedHeadroom, Verdict.headroom]
  simp only [Budget.judge, hslot, hmargin, hlimit]

theorem isComplete_text (time : String) (artifact : Path) (size : UInt64) (colored : Bool) :
    IsComplete time artifact size .text (text colored (Budget.ota.judge size)) := by
  rw [text_ota]
  exact .text colored

theorem isComplete_json (time : String) (artifact : Path) (size : UInt64) :
    IsComplete time artifact size .json (json time artifact (Budget.ota.judge size)) := by
  rw [json, fields_ota]
  exact .json

end SizeGate.Report
