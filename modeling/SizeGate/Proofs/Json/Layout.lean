import SizeGate.Json
import SizeGate.Proofs.Json.Exact
import SizeGate.Proofs.Text.Numeral

/-!
What the layout of a JSON value spells.

Main statements: a laid out value is read back as itself, whatever its strings hold
(`read?_pretty`), and it spells nothing else (`spells_pretty_iff`).
-/

namespace SizeGate.Json

variable {text rest : List Char}

mutual

def toValue : Json → Value
  | .string text => .string text
  | .number value => .number value
  | .boolean value => .boolean value
  | .object fields => .object (toMembers fields)

def toMember : String × Json → String × Value
  | (name, value) => (name, toValue value)

def toMembers : List (String × Json) → List (String × Value)
  | [] => []
  | field :: rest => toMember field :: toMembers rest

end

section Strings

/-- A character is escaped to one spelling of itself. -/
theorem character_escapeChar (c : Char) (rest : List Char) :
    Character (escapeChar c ++ rest) c rest := by
  unfold escapeChar
  -- The seven characters that are escaped by a letter.
  iterate 7
    split
    · next hc =>
      subst hc
      exact .named rfl
  split
  · next hcontrol =>
    have hunit : CodeUnit
        ('0' :: '0' :: Nat.digitChar (c.toNat / 16) :: Nat.digitChar (c.toNat % 16) :: rest)
        (((0 * 16 + 0) * 16 + c.toNat / 16) * 16 + c.toNat % 16) rest :=
      .mk rfl rfl (Text.digitValue?_digitChar (by omega)) (Text.digitValue?_digitChar (by omega))
    have hvalue : ((0 * 16 + 0) * 16 + c.toNat / 16) * 16 + c.toNat % 16 = c.toNat := by omega
    rw [hvalue] at hunit
    have hcharacter := Character.unit hunit (.inl (by omega))
    rwa [Char.ofNat_toNat] at hcharacter
  · next hquote hescape _ _ _ _ _ hcontrol => exact .plain (by omega) hquote hescape

theorem characters_escape (cs rest : List Char) :
    Characters (cs.flatMap escapeChar ++ '"' :: rest) cs rest := by
  induction cs with
  | nil => exact .nil
  | cons c cs ih =>
    rw [List.flatMap_cons, List.append_assoc]
    exact .cons (character_escapeChar c _) ih

end Strings

section Numbers

theorem unsigned_ofNat (n : Nat) (rest : List Char) :
    Unsigned ((Decimal.ofNat n).toList ++ rest) n rest := by
  have hwhole : Whole ((Decimal.ofNat n).toList ++ rest) (Decimal.ofNat n).toList rest := by
    by_cases hn : n = 0
    · subst hn
      exact .zero
    · have hdigits := @Decimal.isDigit_of_mem_ofNat n
      obtain ⟨d, digits, hcons, hd⟩ := Decimal.head_toDigits_ne_zero hn
      rw [Decimal.toList_ofNat, hcons] at hdigits ⊢
      exact .positive hd fun c member => hdigits member
  have hvalue : magnitude (Decimal.ofNat n).toList [] 0 = n := by
    simp only [magnitude, natural, List.append_nil, Decimal.ofDigitChars_toList_ofNat]
    exact Rat.mul_one _
  have hunsigned := Unsigned.mk hwhole .absent .absent
  rwa [hvalue] at hunsigned

theorem number_ofInt (n : Int) (rest : List Char) :
    Number ((Decimal.ofInt n).toList ++ rest) n rest := by
  cases n with
  | ofNat n => exact .positive (unsigned_ofNat n rest)
  | negSucc n =>
    have hnumber := Number.negative (unsigned_ofNat (n + 1) rest)
    have hvalue : -((n + 1 : Nat) : Rat) = ((Int.negSucc n : Int) : Rat) := by
      rw [Int.negSucc_eq, Rat.intCast_neg, ← Rat.intCast_natCast]
      rfl
    rw [hvalue] at hnumber
    rwa [Decimal.ofInt, String.toList_append]

end Numbers

theorem blanks_indent (level : Nat) (rest : List Char) : Blanks (indent level ++ rest) rest := by
  rw [indent]
  induction 2 * level with
  | zero => exact .nil
  | succ n ih => exact .cons rfl ih

mutual

/-- A laid out value is spelled, on any level and in front of anything. -/
theorem spells_layout (level : Nat) (rest : List Char) : ∀ json : Json,
    Spells (layout level json ++ rest) (.value json.toValue) rest
  | .string text => by
    have hstring := Spells.string (characters_escape text.toList rest)
    rw [String.ofList_toList] at hstring
    simpa [layout, quote, toValue] using hstring
  | .number value => .number (number_ofInt value rest)
  | .boolean true => .literal .yes
  | .boolean false => .literal .no
  | .object [] => .emptyObject .nil
  | .object (first :: others) => by
    have hblanks : Blanks ('\n' :: indent level ++ '\x7d' :: rest) ('\x7d' :: rest) :=
      .cons rfl (blanks_indent level _)
    have hmembers := spells_layoutFields (level + 1) hblanks others _ _
      fun _ _ hblanks => spells_layoutField (level + 1) hblanks first
    simpa [layout, toValue, toMembers] using Spells.object hmembers

theorem spells_layoutField (level : Nat) {behind rest : List Char} (h : Blanks behind rest) :
    ∀ field : String × Json,
      Spells ('\n' :: layoutField level field ++ behind) (.member (toMember field)) rest
  | (name, value) => by
    have hbefore : ∀ text, Blanks ('\n' :: indent level ++ '"' :: text) ('"' :: text) :=
      fun text => .cons rfl (blanks_indent level _)
    have hname := characters_escape name.toList (':' :: ' ' :: (layout level value ++ behind))
    have hvalue := spells_layout level behind value
    have helement := Spells.element (.cons rfl .nil : Blanks (' ' :: _) _) hvalue h
    have hmember := Spells.member (hbefore _) hname .nil helement
    rw [String.ofList_toList] at hmember
    simpa [layoutField, quote, toMember] using hmember

/-- The fields behind one that is spelled by `text`. -/
theorem spells_layoutFields (level : Nat) {behind rest : List Char} (h : Blanks behind rest) :
    ∀ (others : List (String × Json)) (text : List Char) (member : String × Value),
      (∀ behind rest, Blanks behind rest → Spells (text ++ behind) (.member member) rest) →
      Spells (text ++ (layoutFields level others ++ behind))
        (.members (member :: toMembers others)) rest
  | [], _, _, hmember => .lastMember (hmember _ _ h)
  | second :: others, text, member, hmember => by
    have hothers := spells_layoutFields level h others _ _
      fun _ _ hblanks => spells_layoutField level hblanks second
    simpa [layoutFields, toMembers] using Spells.moreMembers (hmember _ _ .nil) hothers

end

/-- A laid out value is read back, and as nothing else. -/
theorem read?_pretty (json : Json) (blanks : List Char) (h : Blanks blanks []) :
    read? (json.pretty ++ String.ofList blanks) = some json.toValue := by
  rw [read?_eq_some_iff, String.toList_append, pretty, String.toList_ofList, String.toList_ofList]
  exact .element .nil (spells_layout 0 blanks json) h

/-- A laid out value is itself a spelling, without blanks around it, and of nothing else. -/
theorem spells_pretty_iff (json : Json) (value : Value) :
    Spells json.pretty.toList (.value value) [] ↔ value = json.toValue := by
  have hspells : Spells json.pretty.toList (.value json.toValue) [] := by
    have hlayout := spells_layout 0 [] json
    rwa [List.append_nil, ← String.toList_ofList (l := layout 0 json)] at hlayout
  constructor
  · intro h
    have hread : read? json.pretty = some json.toValue :=
      (read?_eq_some_iff _ _).mpr (.element .nil hspells .nil)
    have hother : read? json.pretty = some value :=
      (read?_eq_some_iff _ _).mpr (.element .nil h .nil)
    exact Option.some.inj (hother.symm.trans hread)
  · rintro rfl
    exact hspells

end SizeGate.Json
