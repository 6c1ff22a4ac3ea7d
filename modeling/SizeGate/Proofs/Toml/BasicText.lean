import SizeGate.Proofs.Text.Numeral
import SizeGate.Toml.Text

/-!
Basic strings of a TOML document.

`Spelling` gives the ways in which a character may be written between the quotes: as it is, by a
letter, or by its code point. Main statement: a spelled text is read back as itself, whatever it
holds and whatever stands behind its closing quote (`basicText?_of_spelled`).
-/

namespace SizeGate.Toml

/-- The characters that a backslash and a letter stand for. -/
def escapeLetters : List (Char × Char) :=
  [('b', '\x08'), ('t', '\t'), ('n', '\n'), ('f', '\x0c'), ('r', '\r'), ('"', '"'), ('\\', '\\')]

/-- Hexadecimal digits behind those of a number make a larger one of it. -/
inductive Extends : Nat → List Char → Nat → Prop where
  | nil {n : Nat} : Extends n [] n
  | cons {n value digit : Nat} {c : Char} {digits : List Char} :
      Text.digitValue? 16 c = some digit → Extends (n * 16 + digit) digits value →
      Extends n (c :: digits) value

/-- A way of writing a character in a basic string. Only a quote, a backslash and a control
character other than the tab cannot stand for themselves. -/
inductive Spelling : Char → List Char → Prop where
  | literal {c : Char} : c ≠ '"' → c ≠ '\\' → c = '\t' ∨ 0x20 ≤ c.toNat ∧ c.toNat ≠ 0x7F →
      Spelling c [c]
  | letter {c letter : Char} : (letter, c) ∈ escapeLetters → Spelling c ['\\', letter]
  | fourDigits {c : Char} {digits : List Char} : digits.length = 4 →
      Extends 0 digits c.toNat → Spelling c ('\\' :: 'u' :: digits)
  | eightDigits {c : Char} {digits : List Char} : digits.length = 8 →
      Extends 0 digits c.toNat → Spelling c ('\\' :: 'U' :: digits)

/-- Characters spelled one behind the other. -/
inductive Spelled : List Char → List Char → Prop where
  | nil : Spelled [] []
  | cons {c : Char} {cs spelling spelled : List Char} : Spelling c spelling → Spelled cs spelled →
      Spelled (c :: cs) (spelling ++ spelled)

variable {c : Char} {cs digits spelling spelled : List Char} {n value : Nat}

theorem codePoint?_of_extends (h : Extends n digits value) (rest : List Char) :
    codePoint? n digits.length (digits ++ rest) = some (value, rest) := by
  induction h with
  | nil => rfl
  | cons hdigit _ ih =>
    rw [List.length_cons, List.cons_append, codePoint?, hdigit]
    exact ih

theorem scalar?_toNat (c : Char) : scalar? c.toNat = some c := by
  have hvalid : c.toNat < 0xD800 ∨ (0xDFFF < c.toNat ∧ c.toNat < 0x110000) := c.valid
  rw [scalar?, if_pos hvalid, Char.ofNat_toNat]

theorem basicText?_of_escape {text rest : List Char} (h : escape? text = some (c, rest)) :
    basicText? ('\\' :: text) = prepend c (basicText? rest) := by
  rw [basicText?, if_neg (by decide), if_pos rfl]
  split
  · next hread =>
    rw [h] at hread
    cases hread
    rfl
  · next hread =>
    rw [h] at hread
    cases hread

theorem escape?_of_letter {letter : Char} (h : (letter, c) ∈ escapeLetters) (rest : List Char) :
    escape? (letter :: rest) = some (c, rest) := by
  simp only [escapeLetters, List.mem_cons, List.not_mem_nil, or_false, Prod.mk.injEq] at h
  rcases h with ⟨rfl, rfl⟩ | ⟨rfl, rfl⟩ | ⟨rfl, rfl⟩ | ⟨rfl, rfl⟩ | ⟨rfl, rfl⟩ | ⟨rfl, rfl⟩ |
    ⟨rfl, rfl⟩ <;> rfl

theorem escape?_of_digits {mark : Char} (hmark : mark = 'u' ∨ mark = 'U')
    (hlength : digits.length = if mark = 'u' then 4 else 8) (h : Extends 0 digits c.toNat)
    (rest : List Char) : escape? (mark :: digits ++ rest) = some (c, rest) := by
  rw [List.cons_append, escape?, if_pos hmark, ← hlength, codePoint?_of_extends h rest]
  simp only [scalar?_toNat, Option.map_some]

theorem basicText?_of_spelling (h : Spelling c spelling) (rest : List Char) :
    basicText? (spelling ++ rest) = prepend c (basicText? rest) := by
  cases h with
  | literal hquote hescape hchar =>
    have hbasic : isBasicChar c = true := by
      simpa [isBasicChar, isCommentChar] using hchar
    rw [List.singleton_append, basicText?, if_neg hquote, if_neg hescape, if_pos hbasic]
  | letter member => exact basicText?_of_escape (escape?_of_letter member rest)
  | fourDigits hlength hdigits =>
    exact basicText?_of_escape (escape?_of_digits (.inl rfl) hlength hdigits rest)
  | eightDigits hlength hdigits =>
    exact basicText?_of_escape (escape?_of_digits (.inr rfl) hlength hdigits rest)

/-- A spelled text is read as itself up to the quote that closes it. -/
theorem basicText?_of_spelled (h : Spelled cs spelled) (rest : List Char) :
    basicText? (spelled ++ '"' :: rest) = some (cs, rest) := by
  induction h with
  | nil => rw [List.nil_append, basicText?, if_pos rfl]
  | cons hspelling _ ih =>
    rw [List.append_assoc, basicText?_of_spelling hspelling, ih]
    rfl

theorem Spelling.head_ne_quote (h : Spelling c spelling) :
    ∃ first more, spelling = first :: more ∧ first ≠ '"' := by
  cases h with
  | literal hquote _ _ => exact ⟨_, _, rfl, hquote⟩
  | letter _ => exact ⟨_, _, rfl, by decide⟩
  | fourDigits _ _ => exact ⟨_, _, rfl, by decide⟩
  | eightDigits _ _ => exact ⟨_, _, rfl, by decide⟩

/-- Only with another quote behind the first can a text be in another notation. -/
theorem text?_of_quote (hc : c ≠ '"') (rest : List Char) : text? ('"' :: c :: rest) =
    (basicText? (c :: rest)).map fun read => (String.ofList read.1, read.2) := by
  simp only [text?]
  split
  · next heq =>
    cases heq
    exact absurd rfl hc
  · next heq => cases heq
  · rfl

theorem text?_of_spelled (h : Spelled cs spelled) (hcs : cs ≠ []) (rest : List Char) :
    text? ('"' :: spelled ++ '"' :: rest) = some (String.ofList cs, rest) := by
  have hread := basicText?_of_spelled h rest
  cases h with
  | nil => exact absurd rfl hcs
  | cons hspelling _ =>
    obtain ⟨first, more, rfl, hfirst⟩ := hspelling.head_ne_quote
    simp only [List.cons_append] at hread ⊢
    rw [text?_of_quote hfirst, hread, Option.map_some]

section Escaped

/-- A character by itself unless it is a quote, a backslash or a control character. -/
def escapeChar (c : Char) : List Char :=
  if c = '"' ∨ c = '\\' then ['\\', c]
  else if c.toNat < 0x20 ∨ c.toNat = 0x7F then
    ['\\', 'u', '0', '0', Nat.digitChar (c.toNat / 16), Nat.digitChar (c.toNat % 16)]
  else [c]

theorem spelling_escapeChar (c : Char) : Spelling c (escapeChar c) := by
  rw [escapeChar]
  split
  · next hc =>
    refine .letter ?_
    rcases hc with rfl | rfl <;> decide
  · next hc =>
    rw [not_or] at hc
    split
    · next hcontrol =>
      have hvalue : ((0 * 16 + 0) * 16 + c.toNat / 16) * 16 + c.toNat % 16 = c.toNat := by omega
      have hzero : Text.digitValue? 16 '0' = some 0 := by decide
      have hhigh := Text.digitValue?_digitChar (show c.toNat / 16 < 16 by omega)
      have hlow := Text.digitValue?_digitChar (show c.toNat % 16 < 16 by omega)
      have hdigits : Extends 0 ['0', '0', _, _] _ :=
        .cons hzero (.cons hzero (.cons hhigh (.cons hlow .nil)))
      rw [hvalue] at hdigits
      exact .fourDigits rfl hdigits
    · next hcontrol => exact .literal hc.1 hc.2 (.inr (by omega))

theorem spelled_escape (cs : List Char) : Spelled cs (cs.flatMap escapeChar) := by
  induction cs with
  | nil => exact .nil
  | cons c cs ih =>
    rw [List.flatMap_cons]
    exact .cons (spelling_escapeChar c) ih

end Escaped

end SizeGate.Toml
