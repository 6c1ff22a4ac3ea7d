import SizeGate.Proofs.Reading
import SizeGate.Proofs.Toml.BasicText
import SizeGate.Proofs.Toml.Keys
import SizeGate.Toml.Document

/-!
Documents that are written line by line.

What one line does to a document read so far is said for every line behind it (`Takes`), and so the
lines of a document can be followed one by one, wherever it breaks them (`parse?_of_lays`). Main
statements: the lines of a section that holds one key lead to a table with that key, whatever has
come before it (`leads_section`).
-/

namespace SizeGate.Toml

/-- The end of a line, as a document may write it. -/
inductive Break : List Char → Prop where
  | feed : Break ['\n']
  | both : Break ['\r', '\n']

/-- A text gives these lines in order, with empty lines between them or not. The last line may do
without an end. -/
inductive Lays : List (List Char) → List Char → Prop where
  | nil : Lays [] []
  | last (line : List Char) : Lays [line] line
  | blank {lineBreak text : List Char} {lines : List (List Char)} : Break lineBreak →
      Lays lines text → Lays lines (lineBreak ++ text)
  | line {line lineBreak text : List Char} {lines : List (List Char)} : Break lineBreak →
      Lays lines text → Lays (line :: lines) (line ++ (lineBreak ++ text))

/-- What stands behind a line: an end of it with further text, or nothing. -/
inductive Stops : List Char → List Char → Prop where
  | text : Stops [] []
  | line {lineBreak : List Char} (rest : List Char) : Break lineBreak →
      Stops (lineBreak ++ rest) rest

/-- A character that a statement may begin with. -/
def startsStatement (c : Char) : Bool :=
  c = '[' || isBareChar c

/-- Wherever it stops, the line is a statement by which the document read so far becomes `next`. -/
structure Takes (reading : Reading) (line : List Char) (next : Reading) : Prop where
  starts : ∃ c cs, line = c :: cs ∧ startsStatement c = true
  reads : ∀ tail rest, Stops tail rest → statement? reading (line ++ tail) = some (next, rest)

/-- Line by line, the document read so far becomes the last one. -/
inductive Leads : Reading → List (List Char) → Reading → Prop where
  | nil {reading : Reading} : Leads reading [] reading
  | cons {reading next last : Reading} {line : List Char} {lines : List (List Char)} :
      Takes reading line next → Leads next lines last → Leads reading (line :: lines) last

section Reading

variable {c : Char} {reading next last : Reading} {line tail rest text : List Char}
  {lines : List (List Char)}

theorem apart_of_startsStatement (h : startsStatement c = true) : isBlank c = false ∧ c ≠ '#' ∧
    c ≠ '\n' ∧ c ≠ '\r' ∧ c ≠ '\uFEFF' := by
  have hne : ∀ d, startsStatement d = false → c ≠ d := by
    rintro _ hd rfl
    rw [h] at hd
    cases hd
  refine ⟨?_, hne _ (by decide), hne _ (by decide), hne _ (by decide), hne _ (by decide)⟩
  rw [isBlank, decide_eq_false (hne ' ' (by decide)), decide_eq_false (hne '\t' (by decide))]
  rfl

theorem lineEnd?_of_stops (h : Stops tail rest) : lineEnd? tail = some rest := by
  cases h with
  | text => rfl
  | line rest hbreak => cases hbreak <;> rfl

theorem Stops.front (h : Stops tail rest) :
    tail = [] ∨ ∃ more, tail = '\n' :: more ∨ tail = '\r' :: more := by
  cases h with
  | text => exact .inl rfl
  | line _ hbreak =>
    cases hbreak with
    | feed => exact .inr ⟨_, .inl rfl⟩
    | both => exact .inr ⟨_, .inr rfl⟩

theorem Stops.length_le (h : Stops tail rest) : rest.length ≤ tail.length := by
  cases h with
  | text => exact Nat.le_refl _
  | line rest _ => simp

theorem statements?_nil (reading : Reading) : statements? reading [] = some reading := by
  rw [statements?]
  rfl

theorem statements?_of_break (h : Break line) (reading : Reading) (text : List Char) :
    statements? reading (line ++ text) = statements? reading text := by
  have hend := lineEnd?_of_stops (.line text h)
  have hdrop : dropBlanks (line ++ text) = line ++ text := by cases h <;> rfl
  have hstarts : startsLineEnd (line ++ text) = true := by cases h <;> rfl
  obtain ⟨c, cs, rfl⟩ : ∃ c cs, line = c :: cs := by cases h <;> exact ⟨_, _, rfl⟩
  rw [List.cons_append] at hend hdrop hstarts ⊢
  have hless : text.length < (c :: (cs ++ text)).length := by
    simp only [List.length_cons, List.length_append]
    omega
  rw [statements?, hdrop]
  simp only [hstarts, hend, if_pos hless, ↓reduceIte]

theorem statements?_of_takes (h : Takes reading line next) (hstops : Stops tail rest) :
    statements? reading (line ++ tail) = statements? next rest := by
  have hread := h.reads tail rest hstops
  have hlength := hstops.length_le
  obtain ⟨c, cs, rfl, hstart⟩ := h.starts
  obtain ⟨hblank, hcomment, hfeed, hreturn, -⟩ := apart_of_startsStatement hstart
  rw [List.cons_append] at hread ⊢
  have hless : rest.length < (c :: (cs ++ tail)).length := by
    simp only [List.length_cons, List.length_append]
    omega
  have hdrop : dropBlanks (c :: (cs ++ tail)) = c :: (cs ++ tail) :=
    List.dropWhile_cons_of_neg (by rw [hblank]; decide)
  have hstarts : startsLineEnd (c :: (cs ++ tail)) = false := by
    simp [startsLineEnd, hcomment, hfeed, hreturn]
  rw [statements?, hdrop]
  simp only [hstarts, hread, if_pos hless]
  rfl

/-- The induction is on the way in which the text gives the lines. -/
theorem statements?_of_lays (h : Lays lines text) (hleads : Leads reading lines last) :
    statements? reading text = some last := by
  induction h generalizing reading with
  | nil =>
    cases hleads
    exact statements?_nil _
  | last line =>
    cases hleads with
    | cons htakes hrest =>
      cases hrest
      have hread := statements?_of_takes htakes .text
      rwa [List.append_nil, statements?_nil] at hread
  | blank hbreak _ ih =>
    rw [statements?_of_break hbreak]
    exact ih hleads
  | line hbreak _ ih =>
    cases hleads with
    | cons htakes hrest =>
      rw [statements?_of_takes htakes (.line _ hbreak)]
      exact ih hrest

theorem dropMark_of_lays (h : Lays lines text) (hleads : Leads reading lines last) :
    dropMark text = text := by
  have hline : ∀ {reading next line}, Takes reading line next → ∀ rest,
      dropMark (line ++ rest) = line ++ rest := by
    intro reading next line htakes rest
    obtain ⟨c, cs, rfl, hstart⟩ := htakes.starts
    obtain ⟨-, -, -, -, hmark⟩ := apart_of_startsStatement hstart
    rw [List.cons_append, dropMark]
    rintro _ ⟨⟩
    exact hmark rfl
  cases h with
  | nil => rfl
  | last line =>
    cases hleads with
    | cons htakes _ =>
      have hread := hline htakes []
      rwa [List.append_nil] at hread
  | blank hbreak _ => cases hbreak <;> rfl
  | line _ _ =>
    cases hleads with
    | cons htakes _ => exact hline htakes _

/-- A document gives the table that its lines lead to. -/
theorem parse?_of_lays (h : Lays lines text) (hleads : Leads ⟨[], []⟩ lines last) :
    parse? (String.ofList text) = some (Slot.toTable last.entries) := by
  rw [parse?, String.toList_ofList, dropMark_of_lays h hleads, statements?_of_lays h hleads,
    Option.map_some]

end Reading

/-- A key of one part that needs no quotes. -/
def IsBare (key : String) : Prop :=
  key.toList ≠ [] ∧ ∀ c ∈ key.toList, isBareChar c = true

/-- Wherever it stops, the text is a value. -/
structure Gives (written : List Char) (value : Value) : Prop where
  starts : ∃ c cs, written = c :: cs ∧ isBlank c = false
  reads : ∀ tail rest, Stops tail rest →
    value? (depthLimit - 1) (written ++ tail) = some (value, tail)

def header (name : String) : List Char :=
  '[' :: name.toList ++ [']']

def assignment (key : String) (written : List Char) : List Char :=
  key.toList ++ " = ".toList ++ written

def quoted (spelled : List Char) : List Char :=
  '"' :: spelled ++ ['"']

section Statements

variable {name key : String} {written cs spelled : List Char} {value : Value}
  {entries entries' : Entries} {path : List String}

theorem IsBare.exists_head (h : IsBare key) :
    ∃ c cs, key.toList = c :: cs ∧ isBareChar c = true := by
  obtain ⟨hne, hbare⟩ := h
  cases hkey : key.toList with
  | nil => exact absurd hkey hne
  | cons c cs =>
    rw [hkey] at hbare
    exact ⟨c, cs, rfl, hbare c List.mem_cons_self⟩

theorem IsBare.ne_bracket (h : IsBare key) (rest cs : List Char) :
    key.toList ++ rest ≠ '[' :: cs := by
  obtain ⟨c, more, hkey, hc⟩ := h.exists_head
  rw [hkey]
  intro heq
  injection heq with hbracket
  rw [hbracket] at hc
  cases hc

theorem not_blank_of_bare {c : Char} (h : isBareChar c = true) : isBlank c = false :=
  (apart_of_startsStatement (by rw [startsStatement, h, Bool.or_true])).1

theorem keyPart?_of_bare (h : IsBare key) {c : Char} (rest : List Char)
    (hc : isBareChar c = false) : keyPart? (key.toList ++ c :: rest) = some (key, c :: rest) := by
  have htake : (key.toList ++ c :: rest).takeWhile isBareChar = key.toList :=
    takeWhile_append_of_stop h.2 (by rintro _ ⟨⟩; exact hc)
  have hquote : ¬ ((key.toList ++ c :: rest).head? = some '"' ∨
      (key.toList ++ c :: rest).head? = some '\x27') := by
    obtain ⟨first, more, hkey, hfirst⟩ := h.exists_head
    rw [hkey]
    rintro (hhead | hhead) <;> cases hhead <;> exact absurd hfirst (by decide)
  rw [keyPart?, if_neg hquote]
  simp only [htake, if_neg h.1, List.drop_left, String.ofList_toList]

/-- A bare key ends in front of anything but another of its characters or a point. -/
theorem key?_of_bare (h : IsBare key) {c : Char} {rest : List Char} (hc : isBareChar c = false)
    (hpoint : ∀ more, dropBlanks (c :: rest) ≠ '.' :: more) :
    key? (key.toList ++ c :: rest) = some ([key], dropBlanks (c :: rest)) := by
  have hpart := keyPart?_of_bare h rest hc
  have hdrop : dropBlanks (key.toList ++ c :: rest) = key.toList ++ c :: rest := by
    obtain ⟨first, more, hkey, hfirst⟩ := h.exists_head
    rw [hkey]
    exact List.dropWhile_cons_of_neg (by rw [not_blank_of_bare hfirst]; decide)
  have hparts : keyParts? (key.toList ++ c :: rest) = some ([key], dropBlanks (c :: rest)) := by
    rw [keyParts?, hdrop, hpart]
    split
    · next hread => cases hread
    · next hread =>
      cases hread
      split
      · next hmore => exact absurd hmore (hpoint _)
      · rfl
  rw [key?, hparts]
  rfl

theorem takes_header (h : IsBare name) (hopen : Entries.openTable [name] entries = some entries') :
    Takes ⟨entries, path⟩ (header name) ⟨entries', [name]⟩ := by
  refine ⟨⟨'[', _, rfl, by decide⟩, fun tail rest hstops => ?_⟩
  have hend := lineEnd?_of_stops hstops
  have hkey : key? (name.toList ++ ']' :: tail) = some ([name], ']' :: tail) :=
    key?_of_bare h (by decide) (by rintro more ⟨⟩)
  have hline : header name ++ tail = '[' :: (name.toList ++ ']' :: tail) := by
    simp [header]
  rw [hline, statement?, header?, hkey]
  · simp only [Option.bind_eq_bind, Option.bind_some, expect?, ↓reduceIte, hend, hopen]
  · exact fun cs => h.ne_bracket _ cs

theorem takes_assignment (h : IsBare key) (hgives : Gives written value)
    (hput : Entries.descend false (fun _ => Entries.put [key] value) path .header entries =
      some entries') : Takes ⟨entries, path⟩ (assignment key written) ⟨entries', path⟩ := by
  obtain ⟨first, more, hname, hfirst⟩ := h.exists_head
  constructor
  · refine ⟨first, more ++ " = ".toList ++ written, ?_, ?_⟩
    · rw [assignment, hname]
      rfl
    · rw [startsStatement, hfirst, Bool.or_true]
  · intro tail rest hstops
    have hend := lineEnd?_of_stops hstops
    have hread := hgives.reads tail rest hstops
    have hkey : key? (key.toList ++ ' ' :: '=' :: ' ' :: (written ++ tail)) =
        some ([key], '=' :: ' ' :: (written ++ tail)) :=
      key?_of_bare h (by decide) (by rintro _ ⟨⟩)
    have hline : assignment key written ++ tail =
        key.toList ++ ' ' :: '=' :: ' ' :: (written ++ tail) := by
      simp [assignment]
    have hdrop : dropBlanks (' ' :: (written ++ tail)) = written ++ tail := by
      obtain ⟨c, cs, hwritten, hc⟩ := hgives.starts
      rw [hwritten, List.cons_append, dropBlanks, List.dropWhile_cons_of_pos (by decide),
        List.dropWhile_cons_of_neg (by rw [hc]; decide)]
    rw [hline, statement?, hkey]
    · simp only [Option.bind_eq_bind, Option.bind_some, expect?, ↓reduceIte, hdrop, hread, hend,
        hput]
    · exact fun cs => h.ne_bracket _ _
    · exact fun cs => h.ne_bracket _ _

theorem value?_of_scalar {c : Char} (hlist : c ≠ '[') (htable : c ≠ '\x7b') (depth : Nat)
    (rest : List Char) : value? depth (c :: rest) = scalar (c :: rest) := by
  rw [value?]
  · rintro _ _ _ ⟨⟩
    exact hlist rfl
  · rintro _ _ _ ⟨⟩
    exact htable rfl

theorem gives_quoted (h : Spelled cs spelled) (hcs : cs ≠ []) :
    Gives (quoted spelled) (.string (String.ofList cs)) := by
  refine ⟨⟨'"', _, rfl, by decide⟩, fun tail rest _ => ?_⟩
  have hread := text?_of_spelled h hcs tail
  have hline : quoted spelled ++ tail = '"' :: (spelled ++ '"' :: tail) := by
    simp [quoted]
  rw [List.cons_append] at hread
  rw [hline, value?_of_scalar (by decide) (by decide), scalar, hread]
  rfl

theorem gives_one : Gives ['1'] (.integer 1) := by
  refine ⟨⟨'1', _, rfl, by decide⟩, fun tail rest hstops => ?_⟩
  have hfront := hstops.front
  have hmoment : startsMoment ('1' :: tail) = false := by
    rcases hfront with rfl | ⟨more, rfl | rfl⟩ <;> rfl
  have hwhole : wholePart? ('1' :: tail) = some ([1], tail) := by
    rcases hfront with rfl | ⟨more, rfl | rfl⟩ <;> rfl
  have hpoint : ¬ (tail.head? = some '.' ∨ tail.head? = some 'e' ∨ tail.head? = some 'E') := by
    rcases hfront with rfl | ⟨more, rfl | rfl⟩ <;> simp
  have hinteger : integer? 1 = some (.integer 1) := if_pos (by decide)
  have hdecimal : decimal? false ('1' :: tail) = some (.integer 1, tail) := by
    simp only [decimal?, hwhole, Option.bind_eq_bind, Option.bind_some, if_neg hpoint]
    exact congrArg (Option.bind · fun value => some (value, tail)) hinteger
  rw [List.singleton_append, value?_of_scalar (by decide) (by decide), scalar, hmoment,
    if_neg (by decide)]
  · exact hdecimal
  all_goals rintro _ ⟨⟩

theorem replace_of_lookup {slot other : Slot} (h : entries.lookup name = none) :
    Entries.replace (entries ++ [(name, slot)]) name other = entries ++ [(name, other)] := by
  have hkept : entries.map (fun entry => if entry.1 = name then (name, other) else entry) =
      entries := by
    rw [List.map_congr_left (g := id), List.map_id]
    intro entry hentry
    refine if_neg fun heq => ?_
    exact notMem_keys_of_lookup h (heq ▸ List.mem_map_of_mem hentry)
  rw [Entries.replace, List.map_append, hkept, List.map_singleton, if_pos rfl]

theorem lookup_append_self {slot : Slot} (h : entries.lookup name = none) :
    (entries ++ [(name, slot)]).lookup name = some slot := by
  rw [List.lookup_append, h, Option.none_or, List.lookup_cons_self]

/-- A section with one key stands behind what has come before it. -/
theorem leads_section (hname : IsBare name) (hkey : IsBare key) (hgives : Gives written value)
    (hfresh : entries.lookup name = none) :
    Leads ⟨entries, path⟩ [header name, assignment key written]
      ⟨entries ++ [(name, .table .header [(key, .value value)])], [name]⟩ := by
  have hopen : Entries.openTable [name] entries =
      some (entries ++ [(name, .table .header [])]) := by
    simp only [Entries.openTable, List.getLast?_singleton, List.dropLast_singleton, Entries.descend,
      hfresh]
  have hput : Entries.descend false (fun _ => Entries.put [key] value) [name] .header
      (entries ++ [(name, .table .header [])]) =
        some (entries ++ [(name, .table .header [(key, .value value)])]) := by
    rw [Entries.descend, lookup_append_self hfresh]
    exact congrArg some (replace_of_lookup hfresh)
  exact .cons (takes_header hname hopen) (.cons (takes_assignment hkey hgives hput) .nil)

theorem Leads.append {reading next last : Reading} {lines others : List (List Char)}
    (h : Leads reading lines next) (hothers : Leads next others last) :
    Leads reading (lines ++ others) last := by
  induction h with
  | nil => exact hothers
  | cons htakes _ ih => exact .cons htakes (ih hothers)

end Statements

end SizeGate.Toml
