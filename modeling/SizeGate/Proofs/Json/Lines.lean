import SizeGate.Json
import SizeGate.Proofs.Text.Numeral

/-!
The lines of a laid out JSON value.

A layout breaks lines between its fields and around them, and nowhere else: what its strings hold
has no say in it (`breaks`). Main statement: of the characters below the blank, a layout holds the
line feeds of these breaks and no others (`count_layout`).
-/

namespace SizeGate.Json

mutual

/-- The line breaks of a layout. -/
def breaks : Json → Nat
  | .string _ | .number _ | .boolean _ => 0
  | .object [] => 0
  | .object (first :: rest) => breaksOfField first + breaksOfFields rest + 2

def breaksOfField : String × Json → Nat
  | (_, value) => breaks value

def breaksOfFields : List (String × Json) → Nat
  | [] => 0
  | field :: rest => breaksOfField field + breaksOfFields rest + 1

end

variable {c : Char} {text : String}

theorem printable_of_mem_escapeChar {d : Char} (h : c ∈ escapeChar d) : 0x20 ≤ c.toNat := by
  unfold escapeChar at h
  iterate 7
    split at h
    · simp only [List.mem_cons, List.not_mem_nil, or_false] at h
      rcases h with rfl | rfl <;> decide
  split at h
  · have hdigit : ∀ n < 16, 0x20 ≤ (Nat.digitChar n).toNat := by decide
    simp only [List.mem_cons, List.not_mem_nil, or_false] at h
    rcases h with rfl | rfl | rfl | rfl | rfl | rfl
    iterate 4 decide
    · exact hdigit _ (by omega)
    · exact hdigit _ (by omega)
  · next hcontrol =>
    rw [List.mem_singleton.mp h]
    omega

/-- No string breaks a line. -/
theorem printable_of_mem_quote (h : c ∈ quote text) : 0x20 ≤ c.toNat := by
  simp only [quote, List.mem_append, List.mem_cons, List.mem_flatMap, List.not_mem_nil,
    or_false] at h
  rcases h with (rfl | ⟨d, -, hd⟩) | rfl
  · decide
  · exact printable_of_mem_escapeChar hd
  · decide

theorem printable_of_mem_ofInt {n : Int} (h : c ∈ (Decimal.ofInt n).toList) : 0x20 ≤ c.toNat := by
  have hdigit : ∀ {n : Nat}, c ∈ (Decimal.ofNat n).toList → 0x20 ≤ c.toNat := by
    intro n member
    have hc := Decimal.isDigit_of_mem_ofNat member
    simp only [Char.isDigit, Bool.and_eq_true, decide_eq_true_eq, UInt32.le_iff_toNat_le] at hc
    have hzero : ('0' : Char).val.toNat = 0x30 := rfl
    have hvalue : c.toNat = c.val.toNat := rfl
    omega
  cases n with
  | ofNat n => exact hdigit h
  | negSucc n =>
    rw [Decimal.ofInt, String.toList_append, List.mem_append] at h
    rcases h with hminus | hdigits
    · cases List.mem_singleton.mp hminus
      decide
    · exact hdigit hdigits

theorem printable_of_mem_indent {level : Nat} (h : c ∈ indent level) : 0x20 ≤ c.toNat := by
  cases List.eq_of_mem_replicate h
  decide

section Count

variable (hc : c.toNat < 0x20)
include hc

theorem count_eq_zero_of_printable {cs : List Char} (h : ∀ {d}, d ∈ cs → 0x20 ≤ d.toNat) :
    cs.count c = 0 := by
  apply List.count_eq_zero_of_not_mem
  intro member
  have hprintable := h member
  omega

theorem count_quote (text : String) : (quote text).count c = 0 :=
  count_eq_zero_of_printable hc printable_of_mem_quote

theorem count_indent (level : Nat) : (indent level).count c = 0 :=
  count_eq_zero_of_printable hc printable_of_mem_indent

theorem count_cons_of_printable {d : Char} {cs : List Char} (hd : 0x20 ≤ d.toNat) :
    (d :: cs).count c = cs.count c := by
  apply List.count_cons_of_ne
  rintro rfl
  omega

omit hc in
theorem count_newline_cons (cs : List Char) :
    ('\n' :: cs).count c = cs.count c + if c = '\n' then 1 else 0 := by
  by_cases hnewline : c = '\n'
  · rw [hnewline, List.count_cons_self, if_pos rfl]
  · rw [List.count_cons_of_ne (Ne.symm hnewline), if_neg hnewline, Nat.add_zero]

end Count

mutual

/-- A layout holds no control but the line feeds of its breaks. -/
theorem count_layout (hc : c.toNat < 0x20) (level : Nat) : ∀ json : Json,
    (layout level json).count c = if c = '\n' then breaks json else 0
  | .string text => by
    rw [layout, count_quote hc, breaks, ite_self]
  | .number value => by
    rw [layout, count_eq_zero_of_printable hc printable_of_mem_ofInt, breaks, ite_self]
  | .boolean value => by
    have hwords : "true".toList.all (0x20 ≤ ·.toNat) = true ∧
        "false".toList.all (0x20 ≤ ·.toNat) = true := by decide
    rw [layout, breaks, ite_self]
    split
    · exact count_eq_zero_of_printable hc fun member =>
        of_decide_eq_true (List.all_eq_true.mp hwords.1 _ member)
    · exact count_eq_zero_of_printable hc fun member =>
        of_decide_eq_true (List.all_eq_true.mp hwords.2 _ member)
  | .object [] => by
    rw [layout, count_cons_of_printable hc (by decide), count_cons_of_printable hc (by decide),
      List.count_nil, breaks, ite_self]
  | .object (first :: others) => by
    have hfirst := count_layoutField hc (level + 1) first
    have hothers := count_layoutFields hc (level + 1) others
    have hend : ('\n' :: indent level ++ ['\x7d']).count c = if c = '\n' then 1 else 0 := by
      rw [List.cons_append, count_newline_cons, List.count_append, count_indent hc,
        count_cons_of_printable hc (by decide), List.count_nil, Nat.zero_add]
    rw [layout, List.append_assoc, List.append_assoc, List.cons_append,
      count_cons_of_printable hc (by decide), List.cons_append, count_newline_cons,
      List.count_append, List.count_append, hfirst, hothers, hend, breaks]
    split <;> omega

theorem count_layoutField (hc : c.toNat < 0x20) (level : Nat) : ∀ field : String × Json,
    (layoutField level field).count c = if c = '\n' then breaksOfField field else 0
  | (name, value) => by
    have hvalue := count_layout hc level value
    rw [layoutField, List.count_append, List.count_append, count_indent hc, count_quote hc,
      count_cons_of_printable hc (by decide), count_cons_of_printable hc (by decide), hvalue,
      breaksOfField]
    omega

theorem count_layoutFields (hc : c.toNat < 0x20) (level : Nat) : ∀ fields : List (String × Json),
    (layoutFields level fields).count c = if c = '\n' then breaksOfFields fields else 0
  | [] => by
    rw [layoutFields, List.count_nil, breaksOfFields, ite_self]
  | field :: others => by
    have hfield := count_layoutField hc level field
    have hothers := count_layoutFields hc level others
    rw [layoutFields, List.cons_append, count_cons_of_printable hc (by decide), List.cons_append,
      count_newline_cons, List.count_append, hfield, hothers, breaksOfFields]
    split <;> omega

end

end SizeGate.Json
