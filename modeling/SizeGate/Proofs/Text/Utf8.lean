import Mathlib.Data.List.Forall2
import Mathlib.Tactic.SplitIfs
import SizeGate.Text.Utf8

/-!
Reading UTF-8 is the inverse of writing it.

`Sequence` is the grammar of a single character's bytes, with the bounds that keep out overlong
forms, surrogates and everything above U+10FFFF. Main statement: bytes read as a text exactly if
they are the ones that the text is written as (`decode?_eq_some_iff`), so "is UTF-8" can be said
without the reader. The bytes of ASCII stand for themselves in it (`count_encode`), and of two texts
the smaller, character by character, is written with the smaller bytes (`encode_lt_of_lt`). That
holds for a prefix as well, since no character is written with no bytes.
-/

namespace SizeGate.Utf8

/-- A byte that can only go on with a character. -/
def IsTail (b : UInt8) : Prop :=
  0x80 ≤ b.toNat ∧ b.toNat ≤ 0xBF

/-- The bytes of one character: the lead and what completes it. -/
inductive Sequence : UInt8 → Bytes → Prop where
  | one {a : UInt8} : a.toNat < 0x80 → Sequence a []
  | two {a b : UInt8} : 0xC2 ≤ a.toNat → a.toNat < 0xE0 → IsTail b → Sequence a [b]
  | three {a b c : UInt8} : 0xE0 ≤ a.toNat → a.toNat < 0xF0 →
      (a.toNat = 0xE0 → 0xA0 ≤ b.toNat) → (a.toNat = 0xED → b.toNat < 0xA0) →
      IsTail b → IsTail c → Sequence a [b, c]
  | four {a b c d : UInt8} : 0xF0 ≤ a.toNat → a.toNat < 0xF5 →
      (a.toNat = 0xF0 → 0x90 ≤ b.toNat) → (a.toNat = 0xF4 → b.toNat < 0x90) →
      IsTail b → IsTail c → IsTail d → Sequence a [b, c, d]

private theorem toNat_ofNat_of_valid {n : Nat} (h : n < 0xD800 ∨ 0xDFFF < n ∧ n < 0x110000) :
    (Char.ofNat n).toNat = n := by
  have hvalid : n.isValidChar := by
    rcases h with hlow | ⟨hlow, hhigh⟩
    · exact .inl hlow
    · exact .inr ⟨hlow, hhigh⟩
  rw [Char.ofNat, dif_pos hvalid]
  rfl

/-- A sequence is written back as it was read. The bounds in each case keep the assembled number
in the range that is written with as many bytes. -/
theorem encode_assemble {lead : UInt8} {tail : Bytes} (h : Sequence lead tail) :
    String.utf8EncodeChar (assemble lead tail) = lead :: tail := by
  cases h with
  | one ha =>
    have hvalue : (assemble lead []).val.toNat = lead.toNat :=
      toNat_ofNat_of_valid (by simp; omega)
    simp only [String.utf8EncodeChar, hvalue]
    rw [if_pos (by omega)]
    simp
  | @two b hlow hhigh hb =>
    simp only [IsTail] at hb
    have hvalue : (assemble lead [b]).val.toNat = lead.toNat % 32 * 64 + b.toNat % 64 :=
      toNat_ofNat_of_valid (by simp; omega)
    simp only [String.utf8EncodeChar, hvalue]
    rw [if_neg (by omega), if_pos (by omega)]
    simp [← UInt8.toNat_inj]
    omega
  | @three b c hlow hhigh hfirst hlast hb hc =>
    simp only [IsTail] at hb hc
    have hvalue : (assemble lead [b, c]).val.toNat =
        (lead.toNat % 16 * 64 + b.toNat % 64) * 64 + c.toNat % 64 :=
      toNat_ofNat_of_valid (by simp; omega)
    simp only [String.utf8EncodeChar, hvalue]
    rw [if_neg (by omega), if_neg (by omega), if_pos (by omega)]
    simp [← UInt8.toNat_inj]
    omega
  | @four b c d hlow hhigh hfirst hlast hb hc hd =>
    simp only [IsTail] at hb hc hd
    have hvalue : (assemble lead [b, c, d]).val.toNat =
        ((lead.toNat % 8 * 64 + b.toNat % 64) * 64 + c.toNat % 64) * 64 + d.toNat % 64 :=
      toNat_ofNat_of_valid (by simp; omega)
    simp only [String.utf8EncodeChar, hvalue]
    rw [if_neg (by omega), if_neg (by omega), if_neg (by omega)]
    simp [← UInt8.toNat_inj]
    omega

/-- Every character is written as a sequence, and assembled again from it. -/
theorem exists_sequence (c : Char) : ∃ lead tail,
    String.utf8EncodeChar c = lead :: tail ∧ Sequence lead tail ∧ assemble lead tail = c := by
  have hvalid : c.val.toNat < 0xD800 ∨ 0xDFFF < c.val.toNat ∧ c.val.toNat < 0x110000 := c.valid
  have hofNat : Char.ofNat c.val.toNat = c := Char.ofNat_toNat c
  generalize hn : c.val.toNat = n at hvalid hofNat
  simp only [String.utf8EncodeChar, hn]
  split
  · next hsize =>
    refine ⟨_, _, rfl, .one (by simp; omega), ?_⟩
    rw [← hofNat]
    exact congrArg Char.ofNat (by simp; omega)
  split
  · next hsize =>
    refine ⟨_, _, rfl, .two (by simp; omega) (by simp; omega) (by simp [IsTail]; omega), ?_⟩
    rw [← hofNat]
    exact congrArg Char.ofNat (by simp; omega)
  split
  · next hsize =>
    refine ⟨_, _, rfl, .three (by simp; omega) (by simp; omega) (by simp; omega) (by simp; omega)
      (by simp [IsTail]; omega) (by simp [IsTail]; omega), ?_⟩
    rw [← hofNat]
    exact congrArg Char.ofNat (by simp; omega)
  · next hsize =>
    refine ⟨_, _, rfl, .four (by simp; omega) (by simp; omega) (by simp; omega) (by simp; omega)
      (by simp [IsTail]; omega) (by simp [IsTail]; omega) (by simp [IsTail]; omega), ?_⟩
    rw [← hofNat]
    exact congrArg Char.ofNat (by simp; omega)

/-- A byte of ASCII is its own character and part of no other. -/
theorem mem_encodeChar_iff {b : UInt8} (hb : b.toNat < 0x80) (c : Char) :
    b ∈ String.utf8EncodeChar c ↔ c = Char.ofNat b.toNat := by
  have hself : String.utf8EncodeChar (Char.ofNat b.toNat) = [b] := encode_assemble (.one hb)
  constructor
  · intro member
    obtain ⟨lead, tail, hencode, hsequence, hassemble⟩ := exists_sequence c
    rw [hencode] at member
    have hlarge : ∀ {d : UInt8}, 0x80 ≤ d.toNat → b ≠ d := by
      rintro d hd rfl
      omega
    cases hsequence with
    | one =>
      rw [List.mem_singleton.mp member]
      exact hassemble.symm
    | two hlead _ hsecond =>
      simp [hlarge hsecond.1, hlarge (Nat.le_trans (by decide) hlead)] at member
    | three hlead _ _ _ hsecond hthird =>
      simp [hlarge hsecond.1, hlarge hthird.1, hlarge (Nat.le_trans (by decide) hlead)] at member
    | four hlead _ _ _ hsecond hthird hfourth =>
      simp [hlarge hsecond.1, hlarge hthird.1, hlarge hfourth.1,
        hlarge (Nat.le_trans (by decide) hlead)] at member
  · rintro rfl
    rw [hself]
    exact List.mem_singleton_self b

theorem count_encodeChar {b : UInt8} (hb : b.toNat < 0x80) (c : Char) :
    (String.utf8EncodeChar c).count b = if c = Char.ofNat b.toNat then 1 else 0 := by
  split
  · next hc =>
    have hself : String.utf8EncodeChar (Char.ofNat b.toNat) = [b] := encode_assemble (.one hb)
    rw [hc, hself, List.count_singleton_self]
  · next hc => exact List.count_eq_zero_of_not_mem (mt (mem_encodeChar_iff hb c).mp hc)

/-- A byte of ASCII stands in a text as often as its character does. -/
theorem count_encode {b : UInt8} (hb : b.toNat < 0x80) (text : List Char) :
    (encode text).count b = text.count (Char.ofNat b.toNat) := by
  induction text with
  | nil => rfl
  | cons c text ih =>
    have htail : (text.flatMap String.utf8EncodeChar).count b =
        text.count (Char.ofNat b.toNat) := ih
    rw [encode, List.flatMap_cons, List.count_append, htail, count_encodeChar hb, List.count_cons,
      Nat.add_comm]
    simp only [beq_iff_eq]

/-- The byte lies in the range. -/
def Within (range : UInt8 × UInt8) (b : UInt8) : Prop :=
  range.1 ≤ b ∧ b ≤ range.2

theorem within_iff (low high b : UInt8) :
    Within (low, high) b ↔ low.toNat ≤ b.toNat ∧ b.toNat ≤ high.toNat := by
  rw [Within, UInt8.le_iff_toNat_le, UInt8.le_iff_toNat_le]

/-- The table of tails knows every sequence. -/
theorem tails_of_sequence {lead : UInt8} {tail : Bytes} (h : Sequence lead tail) :
    ∃ ranges, tails lead = some ranges ∧ List.Forall₂ Within ranges tail := by
  simp only [tails, UInt8.lt_iff_toNat_lt, ← UInt8.toNat_inj, UInt8.reduceToNat]
  cases h with
  | one ha => exact ⟨[], by rw [if_pos (by omega)], .nil⟩
  | two hlow hhigh hb =>
    refine ⟨[(0x80, 0xBF)], ?_, ?_⟩
    · rw [if_neg (by omega), if_neg (by omega), if_pos (by omega)]
    · simpa [within_iff, IsTail] using hb
  | three hlow hhigh hfirst hlast hb hc =>
    simp only [IsTail] at hb hc
    rw [if_neg (by omega), if_neg (by omega), if_neg (by omega)]
    split
    · exact ⟨_, rfl, by simp [within_iff]; omega⟩
    split
    · exact ⟨_, rfl, by simp [within_iff]; omega⟩
    · exact ⟨_, rfl, by simp [within_iff]; omega⟩
  | four hlow hhigh hfirst hlast hb hc hd =>
    simp only [IsTail] at hb hc hd
    rw [if_neg (by omega), if_neg (by omega), if_neg (by omega), if_neg (by omega),
      if_neg (by omega), if_neg (by omega)]
    split
    · exact ⟨_, rfl, by simp [within_iff]; omega⟩
    split
    · exact ⟨_, rfl, by simp [within_iff]; omega⟩
    · exact ⟨_, if_pos (by omega), by simp [within_iff]; omega⟩

/-- The table of tails knows nothing but sequences. -/
theorem sequence_of_tails {lead : UInt8} {tail : Bytes} {ranges : List (UInt8 × UInt8)}
    (hranges : tails lead = some ranges) (h : List.Forall₂ Within ranges tail) :
    Sequence lead tail := by
  simp only [tails, UInt8.lt_iff_toNat_lt, ← UInt8.toNat_inj, UInt8.reduceToNat] at hranges
  repeat' split at hranges
  all_goals cases hranges
  all_goals simp only [List.forall₂_cons_left_iff, List.forall₂_nil_left_iff, within_iff,
    UInt8.reduceToNat] at h
  · subst h
    exact .one (by omega)
  · obtain ⟨b, _, hb, rfl, rfl⟩ := h
    exact .two (by omega) (by omega) (by simp only [IsTail]; omega)
  -- Three leads with two bytes behind them, then three with three.
  iterate 3
    · obtain ⟨b, _, hb, ⟨c, _, hc, rfl, rfl⟩, rfl⟩ := h
      exact .three (by omega) (by omega) (by omega) (by omega) (by simp only [IsTail]; omega)
        (by simp only [IsTail]; omega)
  iterate 3
    · obtain ⟨b, _, hb, ⟨c, _, hc, ⟨d, _, hd, rfl, rfl⟩, rfl⟩, rfl⟩ := h
      exact .four (by omega) (by omega) (by omega) (by omega) (by simp only [IsTail]; omega)
        (by simp only [IsTail]; omega) (by simp only [IsTail]; omega)

theorem takeTail_append_of_within {ranges : List (UInt8 × UInt8)} {tail : Bytes}
    (h : List.Forall₂ Within ranges tail) (rest : Bytes) :
    takeTail ranges (tail ++ rest) = (tail, rest) := by
  induction h with
  | nil => cases rest <;> rfl
  | cons hb _ ih =>
    simp only [Within] at hb
    simp [takeTail, hb, ih]

theorem within_of_takeTail {ranges : List (UInt8 × UInt8)} {bytes : Bytes}
    (h : (takeTail ranges bytes).1.length = ranges.length) :
    List.Forall₂ Within ranges (takeTail ranges bytes).1 := by
  fun_induction takeTail ranges bytes with
  | case1 low high ranges b rest hb ih => exact .cons hb (ih (by simpa using h))
  | case2 low high ranges b rest hb => simp at h
  | case3 ranges bytes hshape =>
    rw [List.eq_nil_of_length_eq_zero h.symm]
    exact .nil

/-- A character in front of any bytes is read as that character, and then the bytes. -/
theorem pieces_encodeChar_append (c : Char) (rest : Bytes) :
    pieces (String.utf8EncodeChar c ++ rest) = .char c :: pieces rest := by
  obtain ⟨lead, tail, hencode, hsequence, hassemble⟩ := exists_sequence c
  obtain ⟨ranges, hranges, hwithin⟩ := tails_of_sequence hsequence
  rw [hencode, List.cons_append, pieces, hranges]
  simp only [takeTail_append_of_within hwithin, hwithin.length_eq, if_true, hassemble]

theorem pieces_encode (text : List Char) : pieces (encode text) = text.map .char := by
  induction text with
  | nil => rw [encode, List.flatMap_nil, pieces, List.map_nil]
  | cons c text ih =>
    rw [encode, List.flatMap_cons, pieces_encodeChar_append, List.map_cons]
    exact congrArg _ ih

/-- Bytes without a broken run are written from their characters. -/
theorem eq_encode_of_pieces {bytes : Bytes} {text : List Char}
    (h : pieces bytes = text.map .char) : bytes = encode text := by
  induction text generalizing bytes with
  | nil =>
    cases bytes with
    | nil => rfl
    | cons lead rest =>
      rw [pieces] at h
      split at h <;> cases h
  | cons c text ih =>
    cases bytes with
    | nil => rw [pieces] at h; cases h
    | cons lead rest =>
      rw [pieces] at h
      split at h
      · cases h
      · next ranges hranges =>
        simp only [List.map_cons, List.cons.injEq] at h
        obtain ⟨hpiece, hrest⟩ := h
        split at hpiece
        · next hlength =>
          have hsequence := sequence_of_tails hranges (within_of_takeTail hlength)
          rw [encode, List.flatMap_cons, ← Piece.char.inj hpiece, encode_assemble hsequence,
            List.cons_append]
          exact congrArg _ ((takeTail_append ranges rest).symm.trans (congrArg _ (ih hrest)))
        · cases hpiece

theorem mapM_char?_eq_some_iff (read : List Piece) (text : List Char) :
    read.mapM Piece.char? = some text ↔ read = text.map .char := by
  induction read generalizing text with
  | nil => simp [eq_comm]
  | cons piece read ih =>
    cases piece with
    | broken bytes => cases text <;> simp [Piece.char?]
    | char c => cases text <;> simp [Piece.char?, Option.bind_eq_some_iff, ih, and_comm]

/-- Bytes are the UTF-8 of a text exactly if they are what the text is written as. -/
theorem decode?_eq_some_iff (bytes : Bytes) (text : String) :
    decode? bytes = some text ↔ bytes = encode text.toList := by
  rw [decode?, Option.map_eq_some_iff]
  constructor
  · rintro ⟨cs, hread, rfl⟩
    rw [String.toList_ofList]
    exact eq_encode_of_pieces ((mapM_char?_eq_some_iff _ _).mp hread)
  · intro h
    refine ⟨text.toList, (mapM_char?_eq_some_iff _ _).mpr ?_, String.ofList_toList⟩
    rw [h, pieces_encode]

/-- The bytes of the smaller character decide, whatever comes after either. -/
theorem encodeChar_append_lt {c d : Char} (h : c < d) (rest others : Bytes) :
    String.utf8EncodeChar c ++ rest < String.utf8EncodeChar d ++ others := by
  have hvalues : c.val.toNat < d.val.toNat := h
  have hbound : d.val.toNat < 0x110000 := by
    rcases d.valid with hlow | ⟨-, hhigh⟩
    · exact Nat.lt_trans hlow (by decide)
    · exact hhigh
  simp only [String.utf8EncodeChar]
  -- One case for each pair of lengths; the smaller character is never the longer one.
  split_ifs
  all_goals
    simp (disch := omega) only [List.cons_append, List.nil_append, List.cons_lt_cons_iff,
      UInt8.lt_iff_toNat_lt, ← UInt8.toNat_inj, UInt8.toNat_ofNat', Nat.mod_eq_of_lt]
    omega

theorem encode_lt_of_lt {text other : List Char} (h : text < other) :
    encode text < encode other := by
  induction text generalizing other with
  | nil =>
    cases other with
    | nil => exact absurd h (List.lt_irrefl [])
    | cons d other =>
      obtain ⟨lead, tail, hencode, -, -⟩ := exists_sequence d
      rw [encode, encode, List.flatMap_cons, hencode]
      exact List.nil_lt_cons _ _
  | cons c text ih =>
    cases other with
    | nil => exact absurd h (List.not_lt_nil _)
    | cons d other =>
      rw [encode, encode, List.flatMap_cons, List.flatMap_cons]
      rcases List.cons_lt_cons_iff.mp h with hlt | ⟨rfl, hrest⟩
      · exact encodeChar_append_lt hlt _ _
      · exact List.append_left_lt (ih hrest)

end SizeGate.Utf8
