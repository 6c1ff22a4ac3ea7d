import SizeGate.Proofs.CommandLine.Acceptance
import SizeGate.Proofs.Reading
import SizeGate.Proofs.Text.Lossy

/-!
The ways to write an option.

An option has a short and a long name, and its value stands in the same argument or in the next one
(`Spells`). Main statements: each way stores the value (`accepts_spells_iff`), and an accepted
argument with dashes in front is written in one of these ways, is a flag, or is the two dashes alone
(`spelling_cases`).
-/

namespace SizeGate.CommandLine

open Progress (IsLoose Accepts IsSettled dash equals)

/-- The bytes of an argument given as text. -/
def spelled (text : String) : Bytes :=
  Utf8.encode text.toList

/-- The ways to give a value to an option with a short and a long name. -/
inductive Spells (short long value : Bytes) : List Bytes → Prop where
  | shortApart : IsLoose value → Spells short long value [short, value]
  | shortAttached : value.head? ≠ some equals → Spells short long value [short ++ value]
  | shortEquals : Spells short long value [short ++ equals :: value]
  | longApart : IsLoose value → Spells short long value [long, value]
  | longEquals : Spells short long value [long ++ equals :: value]

/-- The options that take a value, with both of their names. -/
inductive Names : Argument → Bytes → Bytes → Prop where
  | config : Names .config (spelled "-C") (spelled "--config")
  | output : Names .output (spelled "-o") (spelled "--output")

/-- The options that take none. -/
inductive IsFlag : Argument → Bytes → Prop where
  | color : IsFlag .color (spelled "--color")
  | noColor : IsFlag .noColor (spelled "--no-color")

namespace Progress

variable {progress next final : Progress} {argument : Argument} {short long token value : Bytes}
  {args rest : List Bytes}

theorem pieces_cons_of_lt {b : UInt8} (h : b < 0x80) (rest : Bytes) :
    Utf8.pieces (b :: rest) = .char (Char.ofNat b.toNat) :: Utf8.pieces rest := by
  have htails : Utf8.tails b = some [] := by simp only [Utf8.tails, h, if_true]
  rw [Utf8.pieces, htails]
  simp [Utf8.takeTail, Utf8.assemble]

theorem take_short_of_names (hnames : Names argument short long)
    (honly : progress.onlyArtifacts = false) (rest : Bytes) :
    progress.take (short ++ rest) = progress.lettered argument rest := by
  cases hnames with
  | config =>
    have hshort : spelled "-C" ++ rest = dash :: 0x43 :: rest := rfl
    rw [hshort, take_short honly (by decide), Progress.short, pieces_cons_of_lt (by decide)]
    rfl
  | output =>
    have hshort : spelled "-o" ++ rest = dash :: 0x6F :: rest := rfl
    rw [hshort, take_short honly (by decide), Progress.short, pieces_cons_of_lt (by decide)]
    rfl

/-- Of the options of one letter, only those that take a value are read on from. -/
theorem exists_names_of_short {cluster : Bytes} (h : progress.short cluster = .ok next) :
    ∃ argument short long rest, Names argument short long ∧ dash :: cluster = short ++ rest ∧
      progress.lettered argument rest = .ok next := by
  simp only [Progress.short] at h
  split at h
  · exact absurd h (halt_ne_ok _ _ _)
  · exact absurd h (halt_ne_ok _ _ _)
  · next hpieces =>
    obtain ⟨rest, rfl⟩ := Utf8.exists_append_of_pieces hpieces
    exact ⟨_, _, _, rest, .config, rfl, h⟩
  · next hpieces =>
    obtain ⟨rest, rfl⟩ := Utf8.exists_append_of_pieces hpieces
    exact ⟨_, _, _, rest, .output, rfl, h⟩
  · cases h
  · cases h

/-- The long names are words: they hold no equals sign and no U+FFFD. -/
theorem isWord_of_longName? {name : String} {found : LongName} (h : longName? name = some found) :
    spelled name ≠ [] ∧ equals ∉ spelled name ∧ '\uFFFD' ∉ name.toList := by
  simp only [longName?] at h
  repeat' split at h
  all_goals cases h
  all_goals
    next hname =>
      rw [hname]
      decide

theorem exists_names_iff : (∃ short, Names argument short long) ↔
    ∃ name, longName? name = some (.option argument) ∧ long = dash :: dash :: spelled name := by
  constructor
  · rintro ⟨short, hnames⟩
    cases hnames with
    | config => exact ⟨"config", rfl, rfl⟩
    | output => exact ⟨"output", rfl, rfl⟩
  · rintro ⟨name, hname, rfl⟩
    simp only [longName?] at hname
    repeat' split at hname
    all_goals cases hname
    · next hname =>
      rw [hname]
      exact ⟨_, .config⟩
    · next hname =>
      rw [hname]
      exact ⟨_, .output⟩

theorem isFlag_iff : IsFlag argument long ↔
    ∃ name, longName? name = some (.flag argument) ∧ long = dash :: dash :: spelled name := by
  constructor
  · intro hflag
    cases hflag with
    | color => exact ⟨"color", rfl, rfl⟩
    | noColor => exact ⟨"no-color", rfl, rfl⟩
  · rintro ⟨name, hname, rfl⟩
    simp only [longName?] at hname
    repeat' split at hname
    all_goals cases hname
    · next hname =>
      rw [hname]
      exact .color
    · next hname =>
      rw [hname]
      exact .noColor

/-- A name without an equals sign ends where one stands. -/
theorem span_equals {name : Bytes} (h : equals ∉ name) (rest : Bytes)
    (hrest : ∀ b ∈ rest.head?, b = equals) :
    (name ++ rest).takeWhile (· != equals) = name ∧
      (name ++ rest).dropWhile (· != equals) = rest := by
  have hname : ∀ b ∈ name, (b != equals) = true := by
    intro b member
    rw [bne_iff_ne]
    rintro rfl
    exact h member
  have hstop : ∀ b ∈ rest.head?, (b != equals) = false := by
    intro b member
    rw [hrest b member, bne_self_eq_false]
  exact ⟨takeWhile_append_of_stop hname hstop, dropWhile_append_of_stop hname hstop⟩

theorem long_apart {name : Bytes} (h : equals ∉ name) :
    progress.long name = match longName? (Utf8.lossy name) with
      | none => .error (.usage (.unknown ("--" ++ Utf8.lossy name)))
      | some (.option argument) => progress.await argument none
      | some (.flag argument) => progress.flag argument
      | some (.halt reason) => progress.halt reason := by
  obtain ⟨hfront, hback⟩ := span_equals h [] (by simp)
  rw [List.append_nil] at hfront hback
  simp only [Progress.long, hfront, hback, List.head?_nil, Option.map_none]
  cases longName? (Utf8.lossy name) with
  | none => rfl
  | some found => cases found <;> rfl

theorem long_equals {name : Bytes} (h : equals ∉ name) (value : Bytes) :
    progress.long (name ++ equals :: value) = match longName? (Utf8.lossy name) with
      | none => .error (.usage (.unknown ("--" ++ Utf8.lossy name)))
      | some (.option argument) => progress.attach argument value
      | some _ => .error (.usage
        (.unexpectedValue (Utf8.lossy value) ("--" ++ Utf8.lossy name))) := by
  obtain ⟨hfront, hback⟩ := span_equals h (equals :: value) (by simp)
  simp only [Progress.long, hfront, hback, List.head?_cons, Option.map_some, List.drop_one,
    List.tail_cons]
  cases longName? (Utf8.lossy name) with
  | none => rfl
  | some found => cases found <;> rfl

/-- Any bytes are cut at their first equals sign, if they hold one. -/
theorem equals_cases (bytes : Bytes) : ∃ name, equals ∉ name ∧
    (bytes = name ∨ ∃ value, bytes = name ++ equals :: value) := by
  by_cases hmember : equals ∈ bytes
  · obtain ⟨name, value, rfl, hname⟩ := List.eq_append_cons_of_mem hmember
    exact ⟨name, hname, .inr ⟨value, rfl⟩⟩
  · exact ⟨bytes, hmember, .inl rfl⟩

theorem take_long_apart (hnames : Names argument short long)
    (honly : progress.onlyArtifacts = false) :
    progress.take long = progress.await argument none := by
  obtain ⟨name, hname, rfl⟩ := exists_names_iff.mp ⟨short, hnames⟩
  obtain ⟨hnonempty, hword, -⟩ := isWord_of_longName? hname
  have hlossy : Utf8.lossy (spelled name) = name := Utf8.lossy_encode name
  rw [take_long honly hnonempty, long_apart hword, hlossy, hname]

theorem take_long_equals (hnames : Names argument short long)
    (honly : progress.onlyArtifacts = false) (value : Bytes) :
    progress.take (long ++ equals :: value) = progress.attach argument value := by
  obtain ⟨name, hname, rfl⟩ := exists_names_iff.mp ⟨short, hnames⟩
  obtain ⟨-, hword, -⟩ := isWord_of_longName? hname
  have hlossy : Utf8.lossy (spelled name) = name := Utf8.lossy_encode name
  have hnonempty : spelled name ++ equals :: value ≠ [] := by simp
  rw [List.cons_append, List.cons_append, take_long honly hnonempty, long_equals hword, hlossy,
    hname]

theorem take_of_isFlag (hflag : IsFlag argument token) (honly : progress.onlyArtifacts = false) :
    progress.take token = progress.flag argument := by
  obtain ⟨name, hname, rfl⟩ := isFlag_iff.mp hflag
  obtain ⟨hnonempty, hword, -⟩ := isWord_of_longName? hname
  have hlossy : Utf8.lossy (spelled name) = name := Utf8.lossy_encode name
  rw [take_long honly hnonempty, long_apart hword, hlossy, hname]

/-- Among the long names, only options and flags are read on from, and a flag takes no value. -/
theorem long_cases {bytes : Bytes} (h : progress.long bytes = .ok next) :
    (∃ argument, IsFlag argument (dash :: dash :: bytes)) ∨
      ∃ argument short long, Names argument short long ∧
        (dash :: dash :: bytes = long ∨
          ∃ value, dash :: dash :: bytes = long ++ equals :: value) := by
  have hspelled : ∀ {name found}, longName? (Utf8.lossy name) = some found →
      name = spelled (Utf8.lossy name) := by
    intro name found hfound
    exact (Utf8.lossy_eq_iff (isWord_of_longName? hfound).2.2).mp rfl
  obtain ⟨name, hword, rfl | ⟨value, rfl⟩⟩ := equals_cases bytes
  · rw [long_apart hword] at h
    split at h
    · cases h
    · next argument hfound =>
      obtain ⟨short, hnames⟩ := exists_names_iff.mpr ⟨_, hfound, rfl⟩
      rw [← hspelled hfound] at hnames
      exact .inr ⟨argument, short, _, hnames, .inl rfl⟩
    · next argument hfound =>
      refine .inl ⟨argument, isFlag_iff.mpr ⟨_, hfound, ?_⟩⟩
      rw [← hspelled hfound]
    · exact absurd h (halt_ne_ok _ _ _)
  · rw [long_equals hword] at h
    split at h
    · cases h
    · next argument hfound =>
      obtain ⟨short, hnames⟩ := exists_names_iff.mpr ⟨_, hfound, rfl⟩
      rw [← hspelled hfound] at hnames
      exact .inr ⟨argument, short, _, hnames, .inr ⟨value, rfl⟩⟩
    · cases h

section Settled

variable (hsettled : progress.IsSettled) (honly : progress.onlyArtifacts = false)
include hsettled honly

/-- However an option is written, its value is stored, and the rest is read from there. -/
theorem accepts_spells_iff {tokens : List Bytes} (hnames : Names argument short long)
    (hspells : Spells short long value tokens) (hvalue : value ≠ []) :
    progress.Accepts (tokens ++ rest) final ↔
      ∃ stored, progress.store argument (some value) = .ok stored ∧
        stored.Accepts rest final := by
  have hlone : progress.take short = progress.await argument none := by
    have hshort := take_short_of_names hnames honly []
    rwa [List.append_nil, lettered] at hshort
  have happly : ∀ {token}, progress.take token = progress.await argument none →
      IsLoose value → (progress.Accepts (token :: value :: rest) final ↔
        ∃ stored, progress.store argument (some value) = .ok stored ∧
          stored.Accepts rest final) := by
    intro token htake hloose
    rw [accepts_expecting_iff hsettled honly htake]
    constructor
    · rintro ⟨_, _, hargs, -, hstored⟩
      cases hargs
      exact hstored
    · exact fun hstored => ⟨value, rest, rfl, hloose, hstored⟩
  cases hspells with
  | shortApart hloose => exact happly hlone hloose
  | shortAttached hhead =>
    refine accepts_attach_iff hsettled ?_
    rw [take_short_of_names hnames honly]
    obtain ⟨first, others, rfl⟩ := List.exists_cons_of_ne_nil hvalue
    rw [lettered, if_neg (by simpa using hhead)]
  | shortEquals =>
    refine accepts_attach_iff hsettled ?_
    rw [take_short_of_names hnames honly, lettered, if_pos rfl]
  | longApart hloose => exact happly (take_long_apart hnames honly) hloose
  | longEquals => exact accepts_attach_iff hsettled (take_long_equals hnames honly value)

/-- What an accepted argument with a dash in front can be. -/
theorem spelling_cases (hdash : ¬ IsLoose token) (h : progress.Accepts (token :: args) final) :
    token = [dash, dash] ∨ (∃ argument, IsFlag argument token) ∨
      ∃ argument short long value tokens rest, Names argument short long ∧
        Spells short long value tokens ∧ token :: args = tokens ++ rest ∧
        ∃ stored, progress.store argument (some value) = .ok stored := by
  have hexpecting : ∀ {argument}, progress.take token = progress.await argument none →
      ∃ value rest, args = value :: rest ∧ IsLoose value ∧
        ∃ stored, progress.store argument (some value) = .ok stored := by
    intro argument htake
    obtain ⟨value, rest, hargs, hloose, stored, hstore, -⟩ :=
      (accepts_expecting_iff hsettled honly htake).mp h
    exact ⟨value, rest, hargs, hloose, stored, hstore⟩
  have hattached : ∀ {argument value}, progress.take token = progress.attach argument value →
      ∃ stored, progress.store argument (some value) = .ok stored := by
    intro argument value htake
    obtain ⟨stored, hstore, -⟩ := (accepts_attach_iff hsettled htake).mp h
    exact ⟨stored, hstore⟩
  obtain ⟨next, htake, -⟩ := accepts_cons_iff.mp h
  rcases form_cases token with hloose | ⟨letter, rest, hletter, rfl⟩ | rfl | ⟨name, hname, rfl⟩
  · exact absurd hloose hdash
  · rw [take_short honly hletter] at htake
    obtain ⟨argument, short, long, rest, hnames, htoken, -⟩ := exists_names_of_short htake
    right; right
    rw [htoken] at hexpecting hattached ⊢
    rw [take_short_of_names hnames honly] at hexpecting hattached
    rcases rest with _ | ⟨first, rest⟩
    · obtain ⟨value, rest, rfl, hloose, hstored⟩ := hexpecting rfl
      exact ⟨argument, short, long, value, _, rest, hnames, .shortApart hloose, by simp, hstored⟩
    · by_cases hfirst : first = equals
      · subst hfirst
        have hstored := hattached (by rw [lettered, if_pos rfl])
        exact ⟨argument, short, long, rest, _, args, hnames, .shortEquals, rfl, hstored⟩
      · have hstored := hattached (by rw [lettered, if_neg hfirst])
        exact ⟨argument, short, long, _, _, args, hnames, .shortAttached (by simpa using hfirst),
          rfl, hstored⟩
  · exact .inl rfl
  · rw [take_long honly hname] at htake
    rcases long_cases htake with hflag | ⟨argument, short, long, hnames, htoken | ⟨value, htoken⟩⟩
    · exact .inr (.inl hflag)
    · right; right
      obtain ⟨value, rest, rfl, hloose, hstored⟩ :=
        hexpecting (htoken ▸ take_long_apart hnames honly)
      exact ⟨argument, short, long, value, _, rest, hnames, .longApart hloose, by simp [htoken],
        hstored⟩
    · right; right
      have hstored := hattached (htoken ▸ take_long_equals hnames honly value)
      exact ⟨argument, short, long, value, _, args, hnames, .longEquals, by simp [htoken], hstored⟩

end Settled

end Progress

end SizeGate.CommandLine
