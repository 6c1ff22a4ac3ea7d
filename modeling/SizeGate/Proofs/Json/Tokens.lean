import Mathlib.Data.List.TakeWhile
import SizeGate.Proofs.Json.Reader
import SizeGate.Proofs.Reading

/-!
Reading the numbers, strings and words of JSON texts.

A number ends where no more of it can come, so it is read back only in front of something that it
does not go on with (`EndsNumber`). Main statements: what is read is spelled there, and what is
spelled is read, for numbers (`number_of_readNumber`, `readNumber_of_number`), characters
(`character_of_readCharacter`, `readCharacter_of_character`) and words (`literal_of_readLiteral`, `readLiteral_of_literal`).
-/

namespace SizeGate.Json

variable {text inner more rest digits whole fraction cs : List Char} {exponent : Int} {value : Rat}
  {c : Char} {n fuel : Nat}

section Numbers

/-- Nothing in front of this is a number that goes on. -/
def EndsNumber (rest : List Char) : Prop :=
  ∀ c ∈ rest.head?, c.isDigit = false ∧ c ≠ '.' ∧ c ≠ 'e' ∧ c ≠ 'E'

theorem readDigits_eq_some_iff : readDigits text = some (digits, rest) ↔ digits ≠ [] ∧
    (∀ c ∈ digits, c.isDigit = true) ∧ text = digits ++ rest ∧
      ∀ c ∈ rest.head?, c.isDigit = false := by
  constructor
  · intro h
    simp only [readDigits] at h
    split at h
    · cases h
    · next hdigits =>
      cases h
      refine ⟨hdigits, fun c member => ?_, List.takeWhile_append_dropWhile.symm, ?_⟩
      · exact List.mem_takeWhile_imp member
      · intro c member
        have hhead := List.head?_dropWhile_not Char.isDigit text
        rw [Option.mem_def.mp member] at hhead
        simpa using hhead
  · rintro ⟨hdigits, hall, rfl, hrest⟩
    simp only [readDigits, takeWhile_append_of_stop hall hrest, dropWhile_append_of_stop hall hrest,
      if_neg hdigits]

theorem whole_of_readWhole (h : readWhole text = some (whole, rest)) : Whole text whole rest := by
  cases text with
  | nil => cases h
  | cons d text =>
    simp only [readWhole] at h
    split at h
    · next hzero =>
      cases h
      rw [hzero]
      exact .zero
    · next hzero =>
      obtain ⟨hnonempty, hall, htext, -⟩ := readDigits_eq_some_iff.mp h
      obtain ⟨_, digits, rfl⟩ := List.exists_cons_of_ne_nil hnonempty
      rw [List.cons_append, List.cons.injEq] at htext
      obtain ⟨rfl, rfl⟩ := htext
      exact .positive hzero hall

theorem readWhole_of_whole (h : Whole text whole rest)
    (hrest : ∀ c ∈ rest.head?, c.isDigit = false) :
    readWhole text = some (whole, rest) := by
  cases h with
  | zero => rfl
  | positive hzero hall =>
    rw [List.cons_append, readWhole, if_neg hzero]
    exact readDigits_eq_some_iff.mpr ⟨List.cons_ne_nil _ _, hall, rfl, hrest⟩

theorem fraction_of_readFraction (h : readFraction text = some (fraction, rest)) :
    Fraction text fraction rest := by
  cases text with
  | nil =>
    cases h
    exact .absent
  | cons c text =>
    simp only [readFraction] at h
    split at h
    · next hpoint =>
      obtain ⟨hnonempty, hall, rfl, -⟩ := readDigits_eq_some_iff.mp h
      rw [hpoint]
      exact .digits hnonempty hall
    · cases h
      exact .absent

theorem readFraction_of_fraction (h : Fraction text fraction rest)
    (hrest : ∀ c ∈ rest.head?, c.isDigit = false ∧ c ≠ '.') :
    readFraction text = some (fraction, rest) := by
  cases h with
  | absent =>
    cases text with
    | nil => rfl
    | cons c text => rw [readFraction, if_neg (hrest c rfl).2]
  | digits hnonempty hall =>
    rw [List.cons_append, readFraction, if_pos rfl]
    exact readDigits_eq_some_iff.mpr ⟨hnonempty, hall, rfl, fun c member => (hrest c member).1⟩

theorem signed_of_readSigned (h : readSigned text = some (exponent, rest)) :
    Signed text exponent rest := by
  cases text with
  | nil => cases h
  | cons c text =>
    simp only [readSigned] at h
    split at h
    · next hplus =>
      obtain ⟨⟨digits, _⟩, hread, ⟨⟩⟩ := Option.map_eq_some_iff.mp h
      obtain ⟨hnonempty, hall, rfl, -⟩ := readDigits_eq_some_iff.mp hread
      rw [hplus]
      exact .plus hnonempty hall
    split at h
    · next hminus =>
      obtain ⟨⟨digits, _⟩, hread, ⟨⟩⟩ := Option.map_eq_some_iff.mp h
      obtain ⟨hnonempty, hall, rfl, -⟩ := readDigits_eq_some_iff.mp hread
      rw [hminus]
      exact .minus hnonempty hall
    · obtain ⟨⟨digits, _⟩, hread, ⟨⟩⟩ := Option.map_eq_some_iff.mp h
      obtain ⟨hnonempty, hall, htext, -⟩ := readDigits_eq_some_iff.mp hread
      rw [htext]
      exact .unsigned hnonempty hall

theorem readSigned_of_signed (h : Signed text exponent rest)
    (hrest : ∀ c ∈ rest.head?, c.isDigit = false) : readSigned text = some (exponent, rest) := by
  have hread : ∀ {digits}, digits ≠ [] → (∀ c ∈ digits, c.isDigit = true) →
      readDigits (digits ++ rest) = some (digits, rest) := fun hnonempty hall =>
    readDigits_eq_some_iff.mpr ⟨hnonempty, hall, rfl, hrest⟩
  cases h with
  | unsigned hnonempty hall =>
    have hdigits := hread hnonempty hall
    obtain ⟨d, digits, rfl⟩ := List.exists_cons_of_ne_nil hnonempty
    have hd := hall d List.mem_cons_self
    have hplus : d ≠ '+' := by rintro rfl; cases hd
    have hminus : d ≠ '-' := by rintro rfl; cases hd
    rw [List.cons_append] at hdigits ⊢
    rw [readSigned, if_neg hplus, if_neg hminus, hdigits]
    rfl
  | plus hnonempty hall =>
    rw [List.cons_append, readSigned, if_pos rfl, hread hnonempty hall]
    rfl
  | minus hnonempty hall =>
    rw [List.cons_append, readSigned, if_neg (by decide), if_pos rfl, hread hnonempty hall]
    rfl

theorem exponent_of_readExponent (h : readExponent text = some (exponent, rest)) :
    Exponent text exponent rest := by
  cases text with
  | nil =>
    cases h
    exact .absent
  | cons c text =>
    simp only [readExponent] at h
    split at h
    · next hletter =>
      rcases hletter with rfl | rfl
      · exact .lower (signed_of_readSigned h)
      · exact .upper (signed_of_readSigned h)
    · cases h
      exact .absent

theorem readExponent_of_exponent (h : Exponent text exponent rest) (hrest : EndsNumber rest) :
    readExponent text = some (exponent, rest) := by
  have hdigit : ∀ c ∈ rest.head?, c.isDigit = false := fun c member => (hrest c member).1
  cases h with
  | absent =>
    cases text with
    | nil => rfl
    | cons c text =>
      obtain ⟨-, -, hlower, hupper⟩ := hrest c rfl
      rw [readExponent, if_neg (not_or.mpr ⟨hlower, hupper⟩)]
  | lower hsigned => rw [readExponent, if_pos (.inl rfl), readSigned_of_signed hsigned hdigit]
  | upper hsigned => rw [readExponent, if_pos (.inr rfl), readSigned_of_signed hsigned hdigit]

theorem unsigned_of_readUnsigned (h : readUnsigned text = some (value, rest)) :
    Unsigned text value rest := by
  simp only [readUnsigned, Option.bind_eq_bind, Option.bind_eq_some_iff, Prod.exists] at h
  obtain ⟨whole, inner, hwhole, fraction, more, hfraction, exponent, last, hexponent, hvalue⟩ := h
  cases hvalue
  exact .mk (whole_of_readWhole hwhole) (fraction_of_readFraction hfraction)
    (exponent_of_readExponent hexponent)

theorem Exponent.head_not_digit (h : Exponent text exponent rest) (hrest : EndsNumber rest) :
    ∀ c ∈ text.head?, c.isDigit = false ∧ c ≠ '.' := by
  intro c member
  cases h with
  | absent => exact ⟨(hrest c member).1, (hrest c member).2.1⟩
  | lower | upper =>
    cases member
    decide

theorem Fraction.head_not_digit (h : Fraction text fraction rest)
    (hrest : ∀ c ∈ rest.head?, c.isDigit = false ∧ c ≠ '.') :
    ∀ c ∈ text.head?, c.isDigit = false := by
  intro c member
  cases h with
  | absent => exact (hrest c member).1
  | digits =>
    cases member
    rfl

theorem readUnsigned_of_unsigned (h : Unsigned text value rest) (hrest : EndsNumber rest) :
    readUnsigned text = some (value, rest) := by
  cases h with
  | mk hwhole hfraction hexponent =>
    have hpoint := hexponent.head_not_digit hrest
    have hdigit := hfraction.head_not_digit hpoint
    simp only [readUnsigned, readWhole_of_whole hwhole hdigit,
      readFraction_of_fraction hfraction hpoint, readExponent_of_exponent hexponent hrest,
      Option.bind_eq_bind, Option.bind_some]

theorem number_of_readNumber (h : readNumber text = some (value, rest)) :
    Number text value rest := by
  cases text with
  | nil => cases h
  | cons c text =>
    simp only [readNumber] at h
    split at h
    · next hminus =>
      obtain ⟨⟨value, _⟩, hread, ⟨⟩⟩ := Option.map_eq_some_iff.mp h
      rw [hminus]
      exact .negative (unsigned_of_readUnsigned hread)
    · exact .positive (unsigned_of_readUnsigned h)

theorem Whole.exists_digit (h : Whole text whole rest) :
    ∃ d more, text = d :: more ∧ d.isDigit = true := by
  cases h with
  | zero => exact ⟨'0', _, rfl, rfl⟩
  | positive _ hall => exact ⟨_, _, rfl, hall _ List.mem_cons_self⟩

theorem readNumber_of_number (h : Number text value rest) (hrest : EndsNumber rest) :
    readNumber text = some (value, rest) := by
  cases h with
  | positive hunsigned =>
    have hread := readUnsigned_of_unsigned hunsigned hrest
    obtain ⟨hwhole, -, -⟩ := hunsigned
    obtain ⟨d, more, rfl, hd⟩ := hwhole.exists_digit
    have hminus : d ≠ '-' := by rintro rfl; cases hd
    rw [readNumber, if_neg hminus, hread]
  | negative hunsigned =>
    rw [readNumber, if_pos rfl, readUnsigned_of_unsigned hunsigned hrest]
    rfl

/-- A number begins with a sign or a digit. -/
theorem Number.exists_start (h : Number text value rest) :
    ∃ c more, text = c :: more ∧ (c = '-' ∨ c.isDigit = true) := by
  cases h with
  | negative => exact ⟨_, _, rfl, .inl rfl⟩
  | positive hunsigned =>
    obtain ⟨hwhole, -, -⟩ := hunsigned
    obtain ⟨d, more, htext, hd⟩ := hwhole.exists_digit
    exact ⟨d, more, htext, .inr hd⟩

end Numbers

section Strings

theorem readUnit_eq_some_iff : readUnit text = some (n, rest) ↔ CodeUnit text n rest := by
  constructor
  · intro h
    rcases text with _ | ⟨a, _ | ⟨b, _ | ⟨c, _ | ⟨d, text⟩⟩⟩⟩
    iterate 4 cases h
    simp only [readUnit, Option.bind_eq_bind, Option.bind_eq_some_iff] at h
    obtain ⟨i, hi, j, hj, k, hk, l, hl, hunit⟩ := h
    cases hunit
    exact .mk hi hj hk hl
  · rintro ⟨hi, hj, hk, hl⟩
    simp only [readUnit, hi, hj, hk, hl, Option.bind_eq_bind, Option.bind_some]

theorem character_of_readNumbered (h : readNumbered text = some (c, rest)) :
    Character ('\\' :: 'u' :: text) c rest := by
  simp only [readNumbered, Option.bind_eq_bind, Option.bind_eq_some_iff, Prod.exists] at h
  obtain ⟨n, more, hunit, h⟩ := h
  have hunit := readUnit_eq_some_iff.mp hunit
  split at h
  · next hn =>
    cases h
    exact .unit hunit hn
  · next hn =>
    split at h
    · next hhigh =>
      split at h
      · simp only [Option.bind_eq_some_iff, Prod.exists] at h
        obtain ⟨low, last, hlow, h⟩ := h
        split at h
        · next hrange =>
          obtain ⟨rfl, rfl⟩ := Prod.mk.inj (Option.some.inj h)
          exact .pair hunit (by omega) hhigh (readUnit_eq_some_iff.mp hlow) hrange.1 hrange.2
        · cases h
      · cases h
    · cases h

theorem character_of_readEscape (h : readEscape text = some (c, rest)) :
    Character ('\\' :: text) c rest := by
  rcases text with _ | ⟨letter, text⟩
  · cases h
  simp only [readEscape] at h
  split at h
  · next hletter =>
    rw [hletter]
    exact character_of_readNumbered h
  · obtain ⟨_, hnamed, ⟨⟩⟩ := Option.map_eq_some_iff.mp h
    exact .named hnamed

theorem character_of_readCharacter (h : readCharacter text = some (c, rest)) :
    Character text c rest := by
  rcases text with _ | ⟨first, text⟩
  · cases h
  simp only [readCharacter] at h
  split at h
  · next hescape =>
    rw [hescape]
    exact character_of_readEscape h
  · next hescape =>
    split at h
    · cases h
    · next hplain =>
      cases h
      rw [not_or] at hplain
      exact .plain (by omega) hplain.2 hescape

theorem readCharacter_of_character (h : Character text c rest) :
    readCharacter text = some (c, rest) := by
  cases h with
  | plain hcontrol hquote hescape =>
    rw [readCharacter, if_neg hescape, if_neg (not_or.mpr ⟨by omega, hquote⟩)]
  | @named letter c rest hnamed =>
    have hletter : letter ≠ 'u' := by
      rintro rfl
      cases hnamed
    rw [readCharacter, if_pos rfl, readEscape, if_neg hletter, hnamed]
    rfl
  | unit hunit hn =>
    rw [readCharacter, if_pos rfl, readEscape, if_pos rfl, readNumbered,
      readUnit_eq_some_iff.mpr hunit]
    simp only [Option.bind_eq_bind, Option.bind_some, if_pos hn]
  | @pair _ _ _ high low hunit hlow hhigh hmore hlow' hhigh' =>
    have hsurrogate : ¬ (high < 0xD800 ∨ 0xE000 ≤ high) := by omega
    rw [readCharacter, if_pos rfl, readEscape, if_pos rfl, readNumbered,
      readUnit_eq_some_iff.mpr hunit]
    simp only [Option.bind_eq_bind, Option.bind_some, if_neg hsurrogate, if_pos hhigh,
      readUnit_eq_some_iff.mpr hmore, if_pos (And.intro hlow' hhigh')]

theorem Character.length_lt (h : Character text c rest) : rest.length < text.length := by
  cases h with
  | plain => simp
  | named =>
    simp only [List.length_cons]
    omega
  | unit hunit =>
    obtain ⟨_, _, _, _⟩ := hunit
    simp only [List.length_cons]
    omega
  | pair hunit _ _ hmore =>
    obtain ⟨_, _, _, _⟩ := hunit
    obtain ⟨_, _, _, _⟩ := hmore
    simp only [List.length_cons]
    omega

theorem Character.head_ne_quote (h : Character text c rest) : text ≠ '"' :: more := by
  rintro rfl
  cases h with
  | plain _ hquote => exact hquote rfl

theorem characters_of_readCharacters (h : readCharacters fuel text = some (cs, rest)) :
    Characters text cs rest := by
  induction fuel generalizing text cs with
  | zero => cases h
  | succ fuel ih =>
    by_cases hquote : ∃ more, text = '"' :: more
    · obtain ⟨more, rfl⟩ := hquote
      cases h
      exact .nil
    · rw [readCharacters.eq_3 _ _ fun more heq => hquote ⟨more, heq⟩] at h
      simp only [Option.bind_eq_bind, Option.bind_eq_some_iff, Prod.exists] at h
      obtain ⟨c, more, hc, cs, last, hcs, hvalue⟩ := h
      cases hvalue
      exact .cons (character_of_readCharacter hc) (ih hcs)

theorem readCharacters_of_characters (h : Characters text cs rest) (hfuel : text.length ≤ fuel) :
    readCharacters fuel text = some (cs, rest) := by
  induction h generalizing fuel with
  | nil =>
    cases fuel with
    | zero => simp at hfuel
    | succ fuel => rfl
  | cons hc _ ih =>
    have hshorter := hc.length_lt
    cases fuel with
    | zero => omega
    | succ fuel =>
      rw [readCharacters.eq_3 _ _ fun more heq => hc.head_ne_quote heq,
        readCharacter_of_character hc]
      have hmore := ih (Nat.le_of_lt_succ (hshorter.trans_le hfuel))
      simp only [Option.bind_eq_bind, Option.bind_some, hmore]

theorem Characters.length_lt (h : Characters text cs rest) : rest.length < text.length := by
  induction h with
  | nil => simp
  | cons hc _ ih => exact Nat.lt_trans ih hc.length_lt

end Strings

theorem readWord_eq_some_iff {word : List Char} :
    readWord word text = some rest ↔ text = word ++ rest := by
  fun_induction readWord word text with
  | case1 text => simp
  | case2 c word text ih => simp [ih]
  | case3 c word d text h => simp [Ne.symm h]
  | case4 => simp

theorem literal_of_readLiteral {literal : Value} (h : readLiteral text = some (literal, rest)) :
    ∃ word, Literal word literal ∧ text = word ++ rest := by
  simp only [readLiteral, Option.orElse_eq_orElse, Option.orElse_eq_or, Option.or_eq_some_iff,
    Option.map_eq_some_iff] at h
  rcases h with ⟨_, hword, ⟨⟩⟩ | ⟨-, ⟨_, hword, ⟨⟩⟩ | ⟨-, _, hword, ⟨⟩⟩⟩
  · exact ⟨_, .null, readWord_eq_some_iff.mp hword⟩
  · exact ⟨_, .yes, readWord_eq_some_iff.mp hword⟩
  · exact ⟨_, .no, readWord_eq_some_iff.mp hword⟩

theorem readLiteral_of_literal {word : List Char} {literal : Value} (h : Literal word literal)
    (rest : List Char) : readLiteral (word ++ rest) = some (literal, rest) := by
  cases h <;> rfl

theorem Literal.exists_start {word : List Char} {literal : Value} (h : Literal word literal) :
    ∃ c more, word = c :: more ∧ (c = 'n' ∨ c = 't' ∨ c = 'f') := by
  cases h <;> exact ⟨_, _, rfl, by decide⟩

/-- No number is taken for a word. -/
theorem readLiteral_of_number (h : Number text value rest) : readLiteral text = none := by
  obtain ⟨c, more, rfl, hc⟩ := h.exists_start
  rw [Option.eq_none_iff_forall_ne_some]
  rintro ⟨literal, behind⟩ hread
  obtain ⟨word, hliteral, htext⟩ := literal_of_readLiteral hread
  obtain ⟨d, others, rfl, hd⟩ := hliteral.exists_start
  cases htext
  have hnumber : ¬ (c = '-' ∨ c.isDigit = true) := by
    rcases hd with rfl | rfl | rfl <;> decide
  exact hnumber hc

end SizeGate.Json
