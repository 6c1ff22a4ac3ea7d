import SizeGate.Proofs.Json.Layout
import SizeGate.Proofs.Json.Lines
import SizeGate.Proofs.Text.Lossy
import SizeGate.Report

/-!
What a program reads in the report for programs.

Main statement: the report is one JSON value and a line feed, and reading it gives the fields of
`reported`, whatever bytes the path of the artifact holds (`json_reads_as_reported`). Nothing in a
path breaks a line, so the report has the same lines for every artifact.
-/

namespace SizeGate.Report

/-- The value that a report stands for, with the path of the artifact as it is shown. -/
def reported (time shown : String) (verdict : Verdict) : Json.Value :=
  .object [
    ("timestamp", .string time),
    ("artifact", .string shown),
    ("size_bytes", .number verdict.size.toNat),
    ("budget", .object [
      ("slot_bytes", .number verdict.budget.slot.toNat),
      ("margin_bytes", .number verdict.budget.margin.toNat),
      ("max_app_bytes", .number verdict.budget.limit.toNat)]),
    ("headroom_bytes", .number (reportedHeadroom verdict)),
    ("passed", .boolean verdict.fits)]

variable (time : String) (artifact : Path) (verdict : Verdict)

theorem toValue_fields :
    (fields time artifact verdict).toValue = reported time artifact.display verdict := rfl

theorem breaks_fields : (fields time artifact verdict).breaks = 11 := rfl

/-- The characters below the blank in a report: twelve line feeds, whatever the path. -/
theorem count_json {c : Char} (hc : c.toNat < 0x20) :
    (json time artifact verdict).toList.count c = if c = '\n' then 12 else 0 := by
  have hlayout := Json.count_layout hc 0 (fields time artifact verdict)
  rw [breaks_fields] at hlayout
  have hnewline : "\n".toList.count c = if c = '\n' then 1 else 0 := by
    have hcons := Json.count_newline_cons (c := c) []
    rwa [List.count_nil, Nat.zero_add] at hcons
  rw [json, String.toList_append, Json.pretty, String.toList_ofList, List.count_append, hlayout,
    hnewline]
  split <;> rfl

theorem count_encode_json {b : UInt8} (hb : b < 0x20) :
    (Utf8.encode (json time artifact verdict).toList).count b = if b = 0x0A then 12 else 0 := by
  have hsmall : b.toNat < 0x20 := hb
  have hvalue : (Char.ofNat b.toNat).toNat = b.toNat := by
    rw [Char.ofNat, dif_pos (.inl (by omega))]
    rfl
  have hnewline : Char.ofNat b.toNat = '\n' ↔ b = 0x0A := by
    rw [← Char.toNat_inj, hvalue, ← UInt8.toNat_inj]
    rfl
  rw [Utf8.count_encode (by omega), count_json time artifact verdict (by omega)]
  simp only [hnewline]

theorem read?_json : Json.read? (json time artifact verdict) =
    some (reported time artifact.display verdict) := by
  rw [← toValue_fields]
  exact Json.read?_pretty _ ['\n'] (.cons rfl .nil)

theorem spells_fields_iff (value : Json.Value) :
    Json.Spells (fields time artifact verdict).pretty.toList (.value value) [] ↔
      value = reported time artifact.display verdict := by
  rw [← toValue_fields]
  exact Json.spells_pretty_iff _ value

/-- A report is read as one value in front of a line feed: that of the fields, with the path of the
artifact as it is, or with a U+FFFD for each of its invalid sequences. Its only controls are its
line feeds. -/
theorem json_reads_as_reported : ∃ body shown : String, json time artifact verdict = body ++ "\n" ∧
    (∀ value, Json.Spells body.toList (.value value) [] ↔ value = reported time shown verdict) ∧
    Json.read? (json time artifact verdict) = some (reported time shown verdict) ∧
    Utf8.ShownAs artifact.bytes shown.toList ∧
    (∀ text : String, artifact.bytes = Utf8.encode text.toList → shown = text) ∧
    ∀ b : UInt8, b < 0x20 → (Utf8.encode (json time artifact verdict).toList).count b =
      if b = 0x0A then 12 else 0 := by
  have hshown : Utf8.ShownAs artifact.bytes artifact.display.toList :=
    (Utf8.shownAs_iff_lossy _ _).mpr rfl
  have htext : ∀ text : String, artifact.bytes = Utf8.encode text.toList →
      artifact.display = text := by
    intro text hbytes
    rw [Path.display, hbytes, Utf8.lossy_encode]
  exact ⟨_, _, rfl, spells_fields_iff time artifact verdict, read?_json time artifact verdict,
    hshown, htext, fun b hb => count_encode_json time artifact verdict hb⟩

end SizeGate.Report
