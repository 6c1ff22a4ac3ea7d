import SizeGate.Proofs.Json.Tokens

/-!
The reader of JSON texts takes the grammar and nothing else.

What the reader takes is spelled in the text, by induction on its fuel. What is spelled is taken, by
induction on the spelling, if something comes behind it that a value can be followed by. Main
statement: a text is read as a value exactly if it spells that value, between blanks
(`read?_eq_some_iff`).
-/

namespace SizeGate.Json

variable {text inner more rest : List Char} {value : Value} {part : Part} {fuel n : Nat}

section Blanks

theorem Blanks.length_le (h : Blanks text rest) : rest.length ≤ text.length := by
  induction h with
  | nil => exact Nat.le_refl _
  | cons _ _ ih => exact Nat.le_succ_of_le ih

theorem blanks_skip (text : List Char) : Blanks text (skip text) := by
  induction text with
  | nil => exact .nil
  | cons c text ih =>
    by_cases hblank : isBlank c = true
    · have hskip : skip (c :: text) = skip text := by simp [skip, hblank]
      rw [hskip]
      exact .cons hblank ih
    · have hskip : skip (c :: text) = c :: text := by simp [skip, hblank]
      rw [hskip]
      exact .nil

theorem skip_of_blanks (h : Blanks text rest) (hrest : ∀ c ∈ rest.head?, isBlank c = false) :
    skip text = rest := by
  induction h with
  | @nil rest =>
    cases rest with
    | nil => rfl
    | cons c rest =>
      have hc : isBlank c = false := hrest c rfl
      simp [skip, hc]
  | cons hblank _ ih =>
    have hskip := ih hrest
    rw [skip] at hskip ⊢
    rw [List.dropWhile_cons_of_pos hblank, hskip]

end Blanks

section Lengths

theorem Whole.length_le {whole : List Char} (h : Whole text whole rest) :
    rest.length ≤ text.length := by
  cases h with
  | zero => simp
  | positive =>
    simp only [List.length_append]
    omega

theorem Fraction.length_le {fraction : List Char} (h : Fraction text fraction rest) :
    rest.length ≤ text.length := by
  cases h with
  | absent => exact Nat.le_refl _
  | digits =>
    simp only [List.length_append, List.length_cons]
    omega

theorem Signed.length_le {exponent : Int} (h : Signed text exponent rest) :
    rest.length ≤ text.length := by
  cases h with
  | unsigned => simp
  | plus | minus =>
    simp only [List.length_append, List.length_cons]
    omega

theorem Exponent.length_le {exponent : Int} (h : Exponent text exponent rest) :
    rest.length ≤ text.length := by
  cases h with
  | absent => exact Nat.le_refl _
  | lower hsigned | upper hsigned => exact Nat.le_succ_of_le hsigned.length_le

theorem Unsigned.length_le {number : Rat} (h : Unsigned text number rest) :
    rest.length ≤ text.length := by
  obtain ⟨hwhole, hfraction, hexponent⟩ := h
  exact hexponent.length_le.trans (hfraction.length_le.trans hwhole.length_le)

theorem Number.length_le {number : Rat} (h : Number text number rest) :
    rest.length ≤ text.length := by
  cases h with
  | positive hunsigned => exact hunsigned.length_le
  | negative hunsigned => exact Nat.le_succ_of_le hunsigned.length_le

/-- What is left of a text is no longer than the text. -/
theorem Spells.length_le (h : Spells text part rest) : rest.length ≤ text.length := by
  induction h with
  | literal => simp
  | number hnumber => exact hnumber.length_le
  | string hcharacters => exact Nat.le_succ_of_le hcharacters.length_lt.le
  | emptyArray hblanks | emptyObject hblanks =>
    have := hblanks.length_le
    simp only [List.length_cons] at this ⊢
    omega
  | array _ ih | object _ ih =>
    simp only [List.length_cons] at ih ⊢
    omega
  | element hbefore _ hbehind ih => exact hbehind.length_le.trans (ih.trans hbefore.length_le)
  | lastElement _ ih | lastMember _ ih => exact ih
  | moreElements _ _ ih ihmore | moreMembers _ _ ih ihmore =>
    simp only [List.length_cons] at ih
    omega
  | member hbefore hname hcolon _ ih =>
    have hbefore := hbefore.length_le
    have hname := hname.length_lt
    have hcolon := hcolon.length_le
    simp only [List.length_cons] at hbefore hcolon
    omega

end Lengths

section Soundness

/-- What the reader reads is spelled in the text, as a part of this kind. -/
def IsSound {α : Type} (reader : Reader α) (part : α → Part) : Prop :=
  ∀ text value rest, reader text = some (value, rest) → Spells text (part value) rest

variable {α : Type} {close : Char} {one : Reader α} {values : List α}

/-- One or more of the same: the first of them is closed, or a comma and the others follow it. -/
theorem readUntil_succ_eq_some_iff (hclose : close ≠ ',') :
    readUntil close one (n + 1) text = some (values, rest) ↔ ∃ value,
      one text = some (value, close :: rest) ∧ values = [value] ∨
      ∃ more others, one text = some (value, ',' :: more) ∧
        readUntil close one n more = some (others, rest) ∧ values = value :: others := by
  simp only [readUntil, Option.bind_eq_bind, Option.bind_eq_some_iff, Prod.exists]
  constructor
  · intro h
    obtain ⟨value, behind, hone, h⟩ := h
    split at h
    · cases h
    · next c behind =>
      split at h
      · next hc =>
        cases h
        exact ⟨value, .inl ⟨hc ▸ hone, rfl⟩⟩
      split at h
      · next hc =>
        obtain ⟨⟨others, last⟩, hothers, h⟩ := Option.bind_eq_some_iff.mp h
        cases h
        exact ⟨value, .inr ⟨behind, others, hc ▸ hone, hothers, rfl⟩⟩
      · cases h
  · intro h
    obtain ⟨value, ⟨hone, rfl⟩ | ⟨more, others, hone, hothers, rfl⟩⟩ := h
    · exact ⟨value, close :: rest, hone, by simp⟩
    · exact ⟨value, ',' :: more, hone, by simp [hclose.symm, hothers]⟩

theorem readBracketed_cases (h : readBracketed close one fuel text = some (values, rest)) :
    Blanks text (close :: rest) ∧ values = [] ∨
      readUntil close one fuel text = some (values, rest) := by
  have hblanks := blanks_skip text
  simp only [readBracketed] at h
  split at h
  · cases h
  · next c behind hskip =>
    rw [hskip] at hblanks
    split at h
    · next hc =>
      cases h
      exact .inl ⟨hc ▸ hblanks, rfl⟩
    · exact .inr h

theorem isSound_readElement {reader : Reader Value} (hvalue : IsSound reader .value) :
    IsSound (readElement reader) .element := by
  intro text value rest h
  simp only [readElement, Option.bind_eq_bind, Option.bind_eq_some_iff, Prod.exists] at h
  obtain ⟨value, behind, hread, h⟩ := h
  cases h
  exact .element (blanks_skip text) (hvalue _ _ _ hread) (blanks_skip behind)

theorem isSound_readMember {reader : Reader Value} (hvalue : IsSound reader .value) (fuel : Nat) :
    IsSound (readMember fuel reader) .member := by
  intro text member rest h
  have hbefore := blanks_skip text
  simp only [readMember] at h
  split at h
  · next inner hskip =>
    rw [hskip] at hbefore
    simp only [Option.bind_eq_bind, Option.bind_eq_some_iff, Prod.exists] at h
    obtain ⟨cs, behind, hname, h⟩ := h
    have hbehind := blanks_skip behind
    split at h
    · next more hcolon =>
      rw [hcolon] at hbehind
      obtain ⟨⟨value, last⟩, helement, h⟩ := Option.bind_eq_some_iff.mp h
      cases h
      exact .member hbefore (characters_of_readCharacters hname) hbehind
        (isSound_readElement hvalue _ _ _ helement)
    · cases h
  · cases h

theorem elements_of_readUntil {reader : Reader Value} {values : List Value}
    (hone : IsSound reader .element) (h : readUntil ']' reader n text = some (values, rest)) :
    Spells text (.elements values) (']' :: rest) := by
  induction n generalizing text values with
  | zero => cases h
  | succ n ih =>
    obtain ⟨value, ⟨hlast, rfl⟩ | ⟨more, others, hmore, hothers, rfl⟩⟩ :=
      (readUntil_succ_eq_some_iff (by decide)).mp h
    · exact .lastElement (hone _ _ _ hlast)
    · exact .moreElements (hone _ _ _ hmore) (ih hothers)

theorem members_of_readUntil {reader : Reader (String × Value)} {members : List (String × Value)}
    (hone : IsSound reader .member) (h : readUntil '\x7d' reader n text = some (members, rest)) :
    Spells text (.members members) ('\x7d' :: rest) := by
  induction n generalizing text members with
  | zero => cases h
  | succ n ih =>
    obtain ⟨member, ⟨hlast, rfl⟩ | ⟨more, others, hmore, hothers, rfl⟩⟩ :=
      (readUntil_succ_eq_some_iff (by decide)).mp h
    · exact .lastMember (hone _ _ _ hlast)
    · exact .moreMembers (hone _ _ _ hmore) (ih hothers)

/-- Whatever is read is spelled. The induction is on the fuel, which goes down with each bracket. -/
theorem isSound_readValue (fuel : Nat) : IsSound (readValue fuel) .value := by
  induction fuel with
  | zero =>
    intro text value rest h
    cases h
  | succ fuel ih =>
    intro text value rest h
    cases text with
    | nil => cases h
    | cons c text =>
      simp only [readValue] at h
      split at h
      · next hquote =>
        obtain ⟨⟨cs, _⟩, hread, h⟩ := Option.map_eq_some_iff.mp h
        cases h
        exact hquote ▸ .string (characters_of_readCharacters hread)
      split at h
      · next hbracket =>
        obtain ⟨⟨values, _⟩, hread, h⟩ := Option.map_eq_some_iff.mp h
        cases h
        rw [hbracket]
        rcases readBracketed_cases hread with ⟨hblanks, rfl⟩ | hvalues
        · exact .emptyArray hblanks
        · exact .array (elements_of_readUntil (isSound_readElement ih) hvalues)
      split at h
      · next hbrace =>
        obtain ⟨⟨members, _⟩, hread, h⟩ := Option.map_eq_some_iff.mp h
        cases h
        rw [hbrace]
        rcases readBracketed_cases hread with ⟨hblanks, rfl⟩ | hmembers
        · exact .emptyObject hblanks
        · exact .object (members_of_readUntil (isSound_readMember ih fuel) hmembers)
      · rw [Option.orElse_eq_orElse, Option.orElse_eq_or, Option.or_eq_some_iff] at h
        rcases h with hliteral | ⟨-, hnumber⟩
        · obtain ⟨word, hword, htext⟩ := literal_of_readLiteral hliteral
          rw [htext]
          exact .literal hword
        · obtain ⟨⟨number, _⟩, hread, h⟩ := Option.map_eq_some_iff.mp hnumber
          cases h
          exact .number (number_of_readNumber hread)

end Soundness

section Completeness

/-- What can stand behind an element: nothing, or what goes on with it or closes what it is in. -/
def ClosesElement (rest : List Char) : Prop :=
  ∀ c ∈ rest.head?, c = ',' ∨ c = ']' ∨ c = '\x7d'

def ClosesValue (rest : List Char) : Prop :=
  ∀ c ∈ rest.head?, isBlank c = true ∨ c = ',' ∨ c = ']' ∨ c = '\x7d'

theorem ClosesElement.not_blank (h : ClosesElement rest) : ∀ c ∈ rest.head?, isBlank c = false := by
  intro c member
  rcases h c member with rfl | rfl | rfl <;> rfl

theorem ClosesElement.closesValue (h : ClosesElement rest) (hblanks : Blanks text rest) :
    ClosesValue text := by
  intro c member
  cases hblanks with
  | nil => exact .inr (h c member)
  | cons hblank =>
    cases member
    exact .inl hblank

theorem ClosesValue.endsNumber (h : ClosesValue rest) : EndsNumber rest := by
  intro c member
  rcases h c member with hblank | rfl | rfl | rfl
  · simp only [isBlank, decide_eq_true_eq] at hblank
    rcases hblank with rfl | rfl | rfl | rfl <;> decide
  all_goals decide

theorem Spells.value_start (h : Spells text (.value value) rest) :
    ∃ c more, text = c :: more ∧ isBlank c = false ∧ c ≠ ']' ∧ c ≠ '\x7d' := by
  cases h with
  | literal hliteral => cases hliteral <;> exact ⟨_, _, rfl, by decide⟩
  | number hnumber =>
    obtain ⟨c, more, rfl, hc⟩ := hnumber.exists_start
    refine ⟨c, more, rfl, ?_⟩
    rcases hc with rfl | hdigit
    · decide
    · have hother : ∀ d : Char, d.isDigit = false → c ≠ d := by
        rintro d hd rfl
        rw [hd] at hdigit
        cases hdigit
      have hblank : isBlank c = false := by
        simp [isBlank, hother ' ' rfl, hother '\t' rfl, hother '\n' rfl, hother '\r' rfl]
      exact ⟨hblank, hother _ rfl, hother _ rfl⟩
  | string | emptyArray | array | emptyObject | object => exact ⟨_, _, rfl, by decide⟩

theorem Spells.element_start (h : Spells text (.element value) rest) :
    ∃ c more, skip text = c :: more ∧ c ≠ ']' := by
  cases h with
  | element hbefore hvalue =>
    obtain ⟨c, more, rfl, hblank, hclose, -⟩ := hvalue.value_start
    have hskip : skip text = c :: more := skip_of_blanks hbefore (by simpa using hblank)
    exact ⟨c, more, hskip, hclose⟩

theorem Spells.elements_start {values : List Value} (h : Spells text (.elements values) rest) :
    ∃ c more, skip text = c :: more ∧ c ≠ ']' := by
  cases h with
  | lastElement helement | moreElements helement => exact helement.element_start

theorem Spells.members_start {members : List (String × Value)}
    (h : Spells text (.members members) rest) : ∃ more, skip text = '"' :: more := by
  have hstart : ∀ {member rest}, Spells text (.member member) rest →
      ∃ more, skip text = '"' :: more := by
    intro member rest hmember
    cases hmember with
    | member hbefore => exact ⟨_, skip_of_blanks hbefore (by simp [isBlank])⟩
  cases h with
  | lastMember hmember | moreMembers hmember => exact hstart hmember

theorem readUntil_last {α : Type} {close : Char} {one : Reader α} {first : α} (hclose : close ≠ ',')
    (hone : one text = some (first, close :: rest))
    (hlength : (close :: rest).length ≤ text.length) (hn : text.length ≤ n) :
    readUntil close one n text = some ([first], rest) := by
  cases n with
  | zero =>
    have hnone := hlength.trans hn
    cases hnone
  | succ n => exact (readUntil_succ_eq_some_iff hclose).mpr ⟨first, .inl ⟨hone, rfl⟩⟩

theorem readUntil_more {α : Type} {close : Char} {one : Reader α} {first : α} {others : List α}
    (hclose : close ≠ ',') (hone : one text = some (first, ',' :: more))
    (hlength : (',' :: more).length ≤ text.length) (hn : text.length ≤ n)
    (hothers : ∀ n, more.length ≤ n → readUntil close one n more = some (others, rest)) :
    readUntil close one n text = some (first :: others, rest) := by
  cases n with
  | zero =>
    have hnone := hlength.trans hn
    cases hnone
  | succ n =>
    have hmore := hothers n (Nat.le_of_succ_le_succ (hlength.trans hn))
    exact (readUntil_succ_eq_some_iff hclose).mpr ⟨first, .inr ⟨more, others, hone, hmore, rfl⟩⟩

theorem readBracketed_of_blanks {α : Type} {close : Char} {one : Reader α}
    (h : Blanks text (close :: rest)) (hclose : isBlank close = false) :
    readBracketed close one fuel text = some ([], rest) := by
  have hskip := skip_of_blanks h (by simpa using hclose)
  rw [readBracketed, hskip]
  simp

theorem readBracketed_of_start {α : Type} {close c : Char} {one : Reader α}
    (hskip : skip text = c :: more) (hc : c ≠ close) :
    readBracketed close one fuel text = readUntil close one fuel text := by
  rw [readBracketed, hskip]
  simp only [if_neg hc]

/-- A character takes one unit of fuel and leaves enough for what is behind it. -/
theorem exists_fuel {c : Char} (h : (c :: text).length ≤ fuel) :
    ∃ n, fuel = n + 1 ∧ text.length ≤ n := by
  cases fuel with
  | zero => cases h
  | succ n => exact ⟨n, rfl, Nat.le_of_succ_le_succ h⟩

theorem readValue_quote : readValue (fuel + 1) ('"' :: text) =
    (readCharacters fuel text).map fun (cs, rest) => (.string (String.ofList cs), rest) := by
  rw [readValue, if_pos rfl]

theorem readValue_bracket : readValue (fuel + 1) ('[' :: text) =
    (readBracketed ']' (readElement (readValue fuel)) fuel text).map
      fun (values, rest) => (.array values, rest) := by
  rw [readValue, if_neg (by decide), if_pos rfl]

theorem readValue_brace : readValue (fuel + 1) ('\x7b' :: text) =
    (readBracketed '\x7d' (readMember fuel (readValue fuel)) fuel text).map
      fun (members, rest) => (.object members, rest) := by
  rw [readValue, if_neg (by decide), if_neg (by decide), if_pos rfl]

theorem readValue_of_plain {c : Char} (hc : c ≠ '"' ∧ c ≠ '[' ∧ c ≠ '\x7b') :
    readValue (fuel + 1) (c :: text) = (readLiteral (c :: text) <|>
      (readNumber (c :: text)).map fun (value, rest) => (.number value, rest)) := by
  rw [readValue, if_neg hc.1, if_neg hc.2.1, if_neg hc.2.2]

theorem readValue_of_literal {word : List Char} (h : Literal word value)
    (hfuel : (word ++ rest).length ≤ fuel) :
    readValue fuel (word ++ rest) = some (value, rest) := by
  have hliteral := readLiteral_of_literal h rest
  obtain ⟨c, more, rfl, hc⟩ := h.exists_start
  have hplain : c ≠ '"' ∧ c ≠ '[' ∧ c ≠ '\x7b' := by
    rcases hc with rfl | rfl | rfl <;> decide
  obtain ⟨fuel, rfl, -⟩ := exists_fuel hfuel
  rw [List.cons_append] at hliteral ⊢
  rw [readValue_of_plain hplain, hliteral]
  rfl

theorem readValue_of_number {number : Rat} (h : Number text number rest) (hrest : ClosesValue rest)
    (hfuel : text.length ≤ fuel) : readValue fuel text = some (.number number, rest) := by
  have hread := readNumber_of_number h hrest.endsNumber
  have hliteral := readLiteral_of_number h
  obtain ⟨c, more, rfl, hc⟩ := h.exists_start
  have hplain : c ≠ '"' ∧ c ≠ '[' ∧ c ≠ '\x7b' := by
    refine ⟨?_, ?_, ?_⟩ <;> rintro rfl <;> revert hc <;> decide
  obtain ⟨fuel, rfl, -⟩ := exists_fuel hfuel
  rw [readValue_of_plain hplain, hliteral, hread]
  rfl

theorem readElement_of_value {reader : Reader Value} {outer : List Char}
    (hbefore : Blanks text inner) (hvalue : Spells inner (.value value) outer)
    (hread : reader inner = some (value, outer)) (hbehind : Blanks outer rest)
    (hrest : ClosesElement rest) : readElement reader text = some (value, rest) := by
  obtain ⟨c, more, rfl, hblank, -⟩ := hvalue.value_start
  have hskip := skip_of_blanks hbefore (by simpa using hblank)
  rw [readElement, hskip, hread]
  simp only [Option.bind_eq_bind, Option.bind_some, skip_of_blanks hbehind hrest.not_blank]

theorem readMember_of_element {reader : Reader Value} {behind cs : List Char}
    (hbefore : Blanks text ('"' :: inner)) (hname : readCharacters fuel inner = some (cs, behind))
    (hcolon : Blanks behind (':' :: more)) (hread : readElement reader more = some (value, rest)) :
    readMember fuel reader text = some ((String.ofList cs, value), rest) := by
  have hquote := skip_of_blanks hbefore (by simp [isBlank])
  have hskip := skip_of_blanks hcolon (by simp [isBlank])
  rw [readMember, hquote]
  simp only [hname, Option.bind_eq_bind, Option.bind_some, hskip, hread]

/-- A part of a text is taken, with enough fuel, in front of what can stand behind it. -/
def Taken (fuel : Nat) (text rest : List Char) : Part → Prop
  | .value value => ClosesValue rest → readValue fuel text = some (value, rest)
  | .element value => ClosesElement rest →
    readElement (readValue fuel) text = some (value, rest)
  | .elements values => ∀ n more, text.length ≤ n → rest = ']' :: more →
    readUntil ']' (readElement (readValue fuel)) n text = some (values, more)
  | .member member => ClosesElement rest →
    readMember fuel (readValue fuel) text = some (member, rest)
  | .members members => ∀ n more, text.length ≤ n → rest = '\x7d' :: more →
    readUntil '\x7d' (readMember fuel (readValue fuel)) n text = some (members, more)

/-- Whatever is spelled is taken. The induction is on how it is spelled. -/
theorem taken_of_spells (h : Spells text part rest) (hfuel : text.length ≤ fuel) :
    Taken fuel text rest part := by
  induction h generalizing fuel with
  | literal hliteral =>
    intro _
    exact readValue_of_literal hliteral hfuel
  | number hnumber =>
    intro hrest
    exact readValue_of_number hnumber hrest hfuel
  | string hcharacters =>
    intro _
    obtain ⟨fuel, rfl, hinner⟩ := exists_fuel hfuel
    rw [readValue_quote, readCharacters_of_characters hcharacters hinner, Option.map_some]
  | emptyArray hblanks =>
    intro _
    obtain ⟨fuel, rfl, -⟩ := exists_fuel hfuel
    rw [readValue_bracket, readBracketed_of_blanks hblanks rfl, Option.map_some]
  | array helements ih =>
    intro _
    obtain ⟨fuel, rfl, hinner⟩ := exists_fuel hfuel
    have hvalues := ih hinner fuel _ hinner rfl
    obtain ⟨c, more, hskip, hc⟩ := helements.elements_start
    rw [readValue_bracket, readBracketed_of_start hskip hc, hvalues, Option.map_some]
  | emptyObject hblanks =>
    intro _
    obtain ⟨fuel, rfl, -⟩ := exists_fuel hfuel
    rw [readValue_brace, readBracketed_of_blanks hblanks rfl, Option.map_some]
  | object hmembers ih =>
    intro _
    obtain ⟨fuel, rfl, hinner⟩ := exists_fuel hfuel
    have hvalues := ih hinner fuel _ hinner rfl
    obtain ⟨more, hskip⟩ := hmembers.members_start
    rw [readValue_brace, readBracketed_of_start hskip (by decide), hvalues, Option.map_some]
  | element hbefore hvalue hbehind ih =>
    intro hrest
    have hread := ih (hbefore.length_le.trans hfuel) (hrest.closesValue hbehind)
    exact readElement_of_value hbefore hvalue hread hbehind hrest
  | lastElement helement ih =>
    intro n more hn hrest
    have hlength := helement.length_le
    subst hrest
    exact readUntil_last (by decide) (ih hfuel (by simp [ClosesElement])) hlength hn
  | moreElements helement _ ih ihmore =>
    intro n more hn hrest
    have hlength := helement.length_le
    refine readUntil_more (by decide) (ih hfuel (by simp [ClosesElement])) hlength hn ?_
    intro smaller hsmaller
    exact ihmore ((Nat.le_of_succ_le hlength).trans hfuel) smaller more hsmaller hrest
  | member hbefore hname hcolon hvalue ih =>
    intro hrest
    have hinner := Nat.le_of_succ_le (hbefore.length_le.trans hfuel)
    have hbehind := hname.length_lt.le.trans hinner
    have hmore := Nat.le_of_succ_le (hcolon.length_le.trans hbehind)
    exact readMember_of_element hbefore (readCharacters_of_characters hname hinner) hcolon
      (ih hmore hrest)
  | lastMember hmember ih =>
    intro n more hn hrest
    have hlength := hmember.length_le
    subst hrest
    exact readUntil_last (by decide) (ih hfuel (by simp [ClosesElement])) hlength hn
  | moreMembers hmember _ ih ihmore =>
    intro n more hn hrest
    have hlength := hmember.length_le
    refine readUntil_more (by decide) (ih hfuel (by simp [ClosesElement])) hlength hn ?_
    intro smaller hsmaller
    exact ihmore ((Nat.le_of_succ_le hlength).trans hfuel) smaller more hsmaller hrest

/-- A whole text is read as a value exactly if it spells the value, with blanks around it. -/
theorem read?_eq_some_iff (text : String) (value : Value) :
    read? text = some value ↔ Spells text.toList (.element value) [] := by
  constructor
  · intro h
    simp only [read?] at h
    split at h
    · next found hread =>
      cases h
      exact isSound_readElement (isSound_readValue _) _ _ _ hread
    · cases h
  · intro h
    have htaken : ClosesElement [] → readElement (readValue text.toList.length) text.toList =
      some (value, []) := taken_of_spells h (Nat.le_refl _)
    rw [read?, htaken (by simp [ClosesElement])]

end Completeness

end SizeGate.Json
