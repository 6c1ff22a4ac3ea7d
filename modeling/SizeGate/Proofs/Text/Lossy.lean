import SizeGate.Proofs.Text.Utf8

/-!
Bytes shown as text.

`ShownAs` says what bytes that are not text are shown as, in terms of the bytes that characters are
written as and of nothing else: characters as they are, and one U+FFFD for each invalid sequence,
which is as long as it can be. Main statements: what is shown is exactly that (`shownAs_iff_lossy`),
text is shown as itself (`lossy_encode`), and only text is shown without a U+FFFD
(`lossy_eq_iff`).
-/

namespace SizeGate.Utf8

/-- The bytes begin a character, or are one. -/
def Begins (run : Bytes) : Prop :=
  ∃ c rest, String.utf8EncodeChar c = run ++ rest

/-- An invalid sequence in front of `rest`: a byte that begins no character, or the beginning of
one that `rest` does not go on with. -/
inductive IsInvalid : Bytes → Bytes → Prop where
  | stray {b : UInt8} {rest : Bytes} : ¬ Begins [b] → IsInvalid [b] rest
  | cut {run rest : Bytes} : run ≠ [] → Begins run → (∀ c, String.utf8EncodeChar c ≠ run) →
      (∀ b more, rest = b :: more → ¬ Begins (run ++ [b])) → IsInvalid run rest

inductive ShownAs : Bytes → List Char → Prop where
  | nil : ShownAs [] []
  | char (c : Char) {rest : Bytes} {text : List Char} : ShownAs rest text →
      ShownAs (String.utf8EncodeChar c ++ rest) (c :: text)
  | invalid {run rest : Bytes} {text : List Char} : IsInvalid run rest → ShownAs rest text →
      ShownAs (run ++ rest) ('\uFFFD' :: text)

/-- Every range in the table of tails holds its lower bound. -/
theorem within_fst_of_tails {lead : UInt8} {ranges : List (UInt8 × UInt8)}
    (h : tails lead = some ranges) {range : UInt8 × UInt8} (member : range ∈ ranges) :
    Within range range.1 := by
  have hall : ∀ ranges, tails lead = some ranges →
      ranges.all (fun range => range.1 ≤ range.2) = true := by
    unfold tails
    repeat' split
    all_goals rintro _ ⟨⟩
    all_goals decide
  have hrange := List.all_eq_true.mp (hall ranges h) range member
  exact ⟨UInt8.le_refl _, of_decide_eq_true hrange⟩

/-- What begins a character is a lead with as many of its tail bytes as there are. -/
theorem begins_cons_iff (lead : UInt8) (tail : Bytes) :
    Begins (lead :: tail) ↔ ∃ front back, tails lead = some (front ++ back) ∧
      List.Forall₂ Within front tail := by
  constructor
  · rintro ⟨c, rest, hencode⟩
    obtain ⟨first, others, hfirst, hsequence, -⟩ := exists_sequence c
    cases hfirst.symm.trans hencode
    obtain ⟨ranges, hranges, hwithin⟩ := tails_of_sequence hsequence
    refine ⟨ranges.take tail.length, ranges.drop tail.length, ?_,
      List.forall₂_take_append _ _ _ hwithin⟩
    rw [List.take_append_drop, hranges]
  · rintro ⟨front, back, hranges, hwithin⟩
    have hback : List.Forall₂ Within back (back.map Prod.fst) := by
      rw [List.forall₂_map_right_iff, List.forall₂_same]
      exact fun range member => within_fst_of_tails hranges (List.mem_append_right front member)
    have hsequence := sequence_of_tails hranges (List.rel_append hwithin hback)
    exact ⟨_, back.map Prod.fst, encode_assemble hsequence⟩

theorem takeTail_append_of_cut {front more : List (UInt8 × UInt8)} {next : UInt8 × UInt8}
    {tail rest : Bytes} (h : List.Forall₂ Within front tail)
    (hrest : ∀ b after, rest = b :: after → ¬ Within next b) :
    takeTail (front ++ next :: more) (tail ++ rest) = (tail, rest) := by
  induction h with
  | nil =>
    cases rest with
    | nil => rfl
    | cons b after =>
      have hnext := hrest b after rfl
      simp only [Within] at hnext
      simp [takeTail, hnext]
  | cons hb _ ih =>
    simp only [Within] at hb
    simp [takeTail, hb, ih]

/-- Where a tail is not complete, it stops at the first byte that does not go on with it. -/
theorem exists_cut_of_takeTail {ranges : List (UInt8 × UInt8)} {bytes : Bytes}
    (h : (takeTail ranges bytes).1.length ≠ ranges.length) :
    ∃ front next more, ranges = front ++ next :: more ∧
      List.Forall₂ Within front (takeTail ranges bytes).1 ∧
      ∀ b after, (takeTail ranges bytes).2 = b :: after → ¬ Within next b := by
  fun_induction takeTail ranges bytes with
  | case1 low high ranges b rest hb ih =>
    obtain ⟨front, next, more, rfl, hfront, hnext⟩ := ih (by simpa using h)
    exact ⟨(low, high) :: front, next, more, rfl, .cons hb hfront, hnext⟩
  | case2 low high ranges b rest hb =>
    refine ⟨[], (low, high), ranges, rfl, .nil, ?_⟩
    rintro _ _ ⟨⟩
    exact hb
  | case3 ranges bytes hshape =>
    rcases ranges with _ | ⟨⟨low, high⟩, ranges⟩
    · exact absurd rfl h
    rcases bytes with _ | ⟨b, rest⟩
    · exact ⟨[], (low, high), ranges, rfl, .nil, by rintro _ _ ⟨⟩⟩
    · exact absurd rfl (hshape low high ranges b rest rfl)

/-- Behind a tail that is not complete, only what its next range holds goes on with it. -/
theorem begins_append_singleton_iff {lead b : UInt8} {tail : Bytes}
    {front more : List (UInt8 × UInt8)} {next : UInt8 × UInt8}
    (hranges : tails lead = some (front ++ next :: more))
    (hfront : List.Forall₂ Within front tail) :
    Begins (lead :: tail ++ [b]) ↔ Within next b := by
  rw [List.cons_append, begins_cons_iff, hranges]
  constructor
  · rintro ⟨first, back, hsplit, hwithin⟩
    have hlast := List.forall₂_drop_append first tail [b] hwithin
    obtain ⟨range, _, hrange, hnil, hdrop⟩ := List.forall₂_cons_right_iff.mp hlast
    rw [List.forall₂_nil_right_iff.mp hnil] at hdrop
    have hlength : tail.length ≤ first.length := by
      have := hwithin.length_eq
      simp only [List.length_append] at this
      omega
    have hranges := congrArg (List.drop tail.length) (Option.some.inj hsplit)
    rw [← hfront.length_eq, List.drop_left, hfront.length_eq,
      List.drop_append_of_le_length hlength, hdrop] at hranges
    cases hranges
    exact hrange
  · intro hb
    exact ⟨front ++ [next], more, by simp, List.rel_append hfront (.cons hb .nil)⟩

theorem pieces_of_tails_eq_none {lead : UInt8} (h : tails lead = none) (rest : Bytes) :
    pieces (lead :: rest) = .broken [lead] :: pieces rest := by
  rw [pieces, h]

theorem not_begins_of_tails_eq_none {lead : UInt8} (h : tails lead = none) : ¬ Begins [lead] := by
  rw [begins_cons_iff, h]
  rintro ⟨_, _, ⟨⟩, -⟩

theorem pieces_of_isInvalid {run rest : Bytes} (h : IsInvalid run rest) :
    pieces (run ++ rest) = .broken run :: pieces rest := by
  cases h with
  | @stray b _ hstray =>
    refine pieces_of_tails_eq_none ?_ rest
    rw [Option.eq_none_iff_forall_ne_some]
    exact fun ranges hranges => hstray ((begins_cons_iff b []).mpr ⟨[], ranges, hranges, .nil⟩)
  | cut hrun hbegins hwhole hrest =>
    obtain ⟨lead, tail, rfl⟩ := List.exists_cons_of_ne_nil hrun
    obtain ⟨front, back, hranges, hfront⟩ := (begins_cons_iff lead tail).mp hbegins
    rcases back with _ | ⟨next, more⟩
    · rw [List.append_nil] at hranges
      exact absurd (encode_assemble (sequence_of_tails hranges hfront)) (hwhole _)
    have hcut : takeTail (front ++ next :: more) (tail ++ rest) = (tail, rest) := by
      refine takeTail_append_of_cut hfront fun b after hafter => ?_
      rw [← begins_append_singleton_iff hranges hfront]
      exact hrest b after hafter
    have hshort : tail.length ≠ (front ++ next :: more).length := by
      simp [hfront.length_eq]
    rw [List.cons_append, pieces, hranges]
    simp only [hcut, hshort, if_false]

theorem shownAs_pieces (bytes : Bytes) : ShownAs bytes ((pieces bytes).map Piece.shown) := by
  fun_induction pieces bytes with
  | case1 => exact .nil
  | case2 lead rest hlead ih => exact .invalid (.stray (not_begins_of_tails_eq_none hlead)) ih
  | case3 lead rest ranges hranges split piece ih =>
    have hsplit : split.1 ++ split.2 = rest := takeTail_append ranges rest
    rw [List.map_cons, ← hsplit, ← List.cons_append]
    by_cases hwhole : split.1.length = ranges.length
    · have hchar := encode_assemble (sequence_of_tails hranges (within_of_takeTail hwhole))
      have hpiece : piece.shown = assemble lead split.1 := by
        simp only [piece, dif_pos hwhole, Piece.shown]
      rw [hpiece, ← hchar]
      exact .char _ ih
    · have hpiece : piece.shown = '\uFFFD' := by
        simp only [piece, dif_neg hwhole, Piece.shown]
      obtain ⟨front, next, more, rfl, hfront, hnext⟩ := exists_cut_of_takeTail hwhole
      rw [hpiece]
      refine .invalid (.cut (List.cons_ne_nil _ _) ?_ ?_ ?_) ih
      · exact (begins_cons_iff _ _).mpr ⟨front, next :: more, hranges, hfront⟩
      · intro c hencode
        obtain ⟨first, others, hfirst, hsequence, -⟩ := exists_sequence c
        cases hfirst.symm.trans hencode
        obtain ⟨found, hfound, hwithin⟩ := tails_of_sequence hsequence
        cases hranges.symm.trans hfound
        exact hwhole hwithin.length_eq.symm
      · intro b after hafter
        rw [begins_append_singleton_iff hranges hfront]
        exact hnext b after hafter

theorem map_shown_pieces_of_shownAs {bytes : Bytes} {text : List Char} (h : ShownAs bytes text) :
    (pieces bytes).map Piece.shown = text := by
  induction h with
  | nil => rw [pieces, List.map_nil]
  | char c _ ih => rw [pieces_encodeChar_append, List.map_cons, ih, Piece.shown]
  | invalid hinvalid _ ih => rw [pieces_of_isInvalid hinvalid, List.map_cons, ih, Piece.shown]

/-- What is shown for any bytes: their characters, and a U+FFFD for each invalid sequence. -/
theorem shownAs_iff_lossy (bytes : Bytes) (text : String) :
    ShownAs bytes text.toList ↔ lossy bytes = text := by
  constructor
  · intro h
    rw [lossy, map_shown_pieces_of_shownAs h, String.ofList_toList]
  · rintro rfl
    rw [lossy, String.toList_ofList]
    exact shownAs_pieces bytes

theorem lossy_encode (text : String) : lossy (encode text.toList) = text := by
  have hshown : Piece.shown ∘ Piece.char = id := rfl
  rw [lossy, pieces_encode, List.map_map, hshown, List.map_id, String.ofList_toList]

theorem eq_map_char_of_map_shown {read : List Piece} {text : List Char}
    (h : read.map Piece.shown = text) (hreplaced : '\uFFFD' ∉ text) : read = text.map .char := by
  induction read generalizing text with
  | nil =>
    cases h
    rfl
  | cons piece read ih =>
    cases h
    rw [List.map_cons, List.mem_cons, not_or] at hreplaced
    cases piece with
    | char c => exact congrArg _ (ih rfl hreplaced.2)
    | broken run => exact absurd rfl hreplaced.1

/-- A text without a U+FFFD in it is shown for its own bytes and for no others. -/
theorem lossy_eq_iff {bytes : Bytes} {text : String} (h : '\uFFFD' ∉ text.toList) :
    lossy bytes = text ↔ bytes = encode text.toList := by
  constructor
  · intro hlossy
    rw [lossy, ← String.toList_inj, String.toList_ofList] at hlossy
    exact eq_encode_of_pieces (eq_map_char_of_map_shown hlossy h)
  · rintro rfl
    exact lossy_encode text

/-- The bytes that are read as a character first are those it is written as, and more. -/
theorem exists_append_of_pieces {bytes : Bytes} {c : Char} {read : List Piece}
    (h : pieces bytes = .char c :: read) : ∃ rest, bytes = String.utf8EncodeChar c ++ rest := by
  cases bytes with
  | nil =>
    rw [pieces] at h
    cases h
  | cons lead rest =>
    rw [pieces] at h
    split at h
    · cases h
    · next ranges hranges =>
      obtain ⟨hpiece, -⟩ := List.cons.inj h
      split at hpiece
      · next hwhole =>
        have hencode := encode_assemble (sequence_of_tails hranges (within_of_takeTail hwhole))
        refine ⟨(takeTail ranges rest).2, ?_⟩
        rw [← Piece.char.inj hpiece, hencode, List.cons_append, takeTail_append]
      · cases hpiece

end SizeGate.Utf8
