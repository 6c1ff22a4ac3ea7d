import SizeGate.Path

/-!
The chain of parents of a path, and the paths that have no parent.

`ancestor?` counts parents one at a time, without a list; the first step up can be taken first as
well as last (`ancestor?_succ`). Main statement: only the empty path and the root have no parent
(`eq_nil_or_components_of_parent?_eq_none`), so a path that ends in a name has one
(`exists_parent?_of_getLast?`). Nothing here looks at files.
-/

namespace SizeGate.Path

/-- The path reached by going to the parent so many times, if there is one each time. -/
def ancestor? (path : Path) : Nat → Option Path
  | 0 => some path
  | steps + 1 => (path.ancestor? steps).bind parent?

/-- The first step up can be taken first as well as last. -/
theorem ancestor?_succ (path : Path) (steps : Nat) :
    path.ancestor? (steps + 1) = path.parent?.bind fun parent => parent.ancestor? steps := by
  induction steps with
  | zero => cases h : path.parent? <;> simp [ancestor?, h]
  | succ steps ih =>
    rw [ancestor?, ih]
    cases path.parent? with
    | none => rfl
    | some parent => rfl

theorem exists_ancestors_eq_cons (path : Path) : ∃ above, path.ancestors = path :: above := by
  rw [ancestors]
  exact ⟨_, rfl⟩

theorem ancestors_of_parent?_eq_none {path : Path} (h : path.parent? = none) :
    path.ancestors = [path] := by
  rw [ancestors]
  split
  · rfl
  · next parent hparent => rw [h] at hparent; cases hparent

theorem ancestors_of_parent?_eq_some {path parent : Path} (h : path.parent? = some parent) :
    path.ancestors = path :: parent.ancestors := by
  rw [ancestors]
  split
  · next hparent => rw [h] at hparent; cases hparent
  · next other hparent => rw [Option.some.inj (h.symm.trans hparent)]

theorem segments_ne_nil (bytes : Bytes) : segments bytes ≠ [] := by
  cases bytes with
  | nil => simp [segments]
  | cons first rest =>
    rw [segments]
    split
    · simp
    · split <;> simp

/-- A slash cuts between pieces wherever it stands. -/
theorem segments_append_slash (front back : Bytes) :
    segments (front ++ slash :: back) = segments front ++ segments back := by
  induction front with
  | nil => simp [segments]
  | cons first rest ih =>
    simp only [List.cons_append, segments, ih]
    split
    · rfl
    · obtain ⟨name, names, hrest⟩ := List.exists_cons_of_ne_nil (segments_ne_nil rest)
      simp [hrest]

/-- The pieces that count as components: those that are neither empty nor a lone dot. -/
def names (bytes : Bytes) : List Bytes :=
  (segments bytes).filter fun name => name ≠ [] ∧ name ≠ [dot]

theorem components_eq_names (path : Path) :
    path.components =
      (if start path.bytes = [slash] then [.root]
        else if start path.bytes = [dot] then [.here] else [])
        ++ (names (body path.bytes)).map Component.name := rfl

theorem names_append_slash (front back : Bytes) :
    names (front ++ slash :: back) = names front ++ names back := by
  rw [names, segments_append_slash, List.filter_append]
  rfl

/-- Trimming the end takes no name away. -/
theorem names_reverse_trimEnd (reversed : Bytes) :
    names (trimEnd reversed).reverse = names reversed.reverse := by
  induction reversed with
  | nil => rfl
  | cons last before ih =>
    have hnil : names [] = [] := rfl
    rw [trimEnd]
    split
    · next hslash => rw [ih, List.reverse_cons, hslash, names_append_slash, hnil, List.append_nil]
    · split
      · next hdot =>
        obtain ⟨rfl, rfl | hslash⟩ := hdot
        · rfl
        · -- A dot behind a slash: the pieces before the slash are those of `before` less its end.
          obtain ⟨front, rfl⟩ := List.head?_eq_some_iff.mp hslash
          have hdots : names [dot] = [] := rfl
          rw [ih, List.reverse_cons, List.reverse_cons, List.reverse_cons, List.append_assoc,
            List.singleton_append, names_append_slash, names_append_slash, hnil, hdots]
      · rfl

/-- Where trimming the end leaves nothing, there was no name. -/
theorem names_of_trimEnd_eq_nil {reversed : Bytes} (h : trimEnd reversed = []) :
    names reversed.reverse = [] := by
  rw [← names_reverse_trimEnd, h]
  rfl

/-- A byte string whose first piece is empty is empty or starts with a slash. -/
theorem head?_of_segments_eq_nil_cons {bytes : Bytes} {others : List Bytes}
    (h : segments bytes = [] :: others) : bytes.head?.getD slash = slash := by
  cases bytes with
  | nil => rfl
  | cons first rest =>
    rw [segments] at h
    split at h
    · next hslash => exact hslash
    · split at h <;> cases h

theorem start_cases (bytes : Bytes) :
    start bytes = [slash] ∨ start bytes = [dot] ∨ start bytes = [] := by
  unfold start
  split
  · exact .inl rfl
  · split
    · exact .inr (.inl rfl)
    · exact .inr (.inr rfl)

/-- Without a root or a leading dot, only the empty path has no name. -/
theorem eq_nil_of_names_eq_nil {bytes : Bytes} (hstart : start bytes = [])
    (hnames : names bytes = []) : bytes = [] := by
  cases bytes with
  | nil => rfl
  | cons first rest =>
    exfalso
    have hslash : first ≠ slash := by
      rintro rfl
      simp [start] at hstart
    obtain ⟨name, others, hrest⟩ := List.exists_cons_of_ne_nil (segments_ne_nil rest)
    have hdot : first :: name ≠ [dot] := by
      intro heq
      cases heq
      have hhead := head?_of_segments_eq_nil_cons hrest
      simp [start, hhead, hslash] at hstart
    rw [names, segments, if_neg hslash, hrest] at hnames
    simp [hdot] at hnames

/-- Only the empty path, and the root under any of its spellings, has no parent. -/
theorem eq_nil_or_components_of_parent?_eq_none {path : Path} (h : path.parent? = none) :
    path = ⟨[]⟩ ∨ path.components = [.root] := by
  simp only [parent?] at h
  split at h
  · cases h
  · next htrim =>
    have hnames : names (body path.bytes) = [] := by
      simpa using names_of_trimEnd_eq_nil (Decidable.not_not.mp htrim)
    split at h
    · cases h
    · next hdot =>
      rcases start_cases path.bytes with hroot | hhere | hstart
      · rw [components_eq_names, if_pos hroot, hnames]
        exact .inr rfl
      · exact absurd hhere hdot
      · have hbody : body path.bytes = path.bytes := by
          rw [body, hstart]
          rfl
        rw [hbody] at hnames
        exact .inl (congrArg Path.mk (eq_nil_of_names_eq_nil hstart hnames))

/-- A joined path ends like the path that is joined to it. -/
theorem getLast?_join (base : Path) {sub : Path} (h : sub.bytes ≠ []) :
    (base.join sub).bytes.getLast? = sub.bytes.getLast? := by
  obtain ⟨first, rest, hsub⟩ := List.exists_cons_of_ne_nil h
  simp only [join]
  split
  · rfl
  · split <;> simp [hsub, List.getLast?_cons]

/-- A path that ends in a name has a parent. -/
theorem exists_parent?_of_getLast? {path : Path} {last : UInt8}
    (h : path.bytes.getLast? = some last) (hslash : last ≠ slash) (hdot : last ≠ dot) :
    ∃ parent, path.parent? = some parent := by
  have hsplit := start_append_body path.bytes
  have hbody : (body path.bytes).reverse.head? = some last := by
    rw [List.head?_reverse]
    rw [← hsplit, List.getLast?_append] at h
    cases hlast : (body path.bytes).getLast? with
    | some other =>
      rw [hlast] at h
      exact h
    | none =>
      rw [hlast] at h
      rcases start_cases path.bytes with hstart | hstart | hstart
      all_goals rw [hstart] at h
      · exact absurd (Option.some.inj h).symm hslash
      · exact absurd (Option.some.inj h).symm hdot
      · cases h
  obtain ⟨before, hreverse⟩ := List.head?_eq_some_iff.mp hbody
  have htrim : trimEnd (body path.bytes).reverse = last :: before := by
    rw [hreverse, trimEnd, if_neg hslash, if_neg fun hend => hdot hend.1]
  simp only [parent?, htrim, ne_eq, reduceCtorEq, not_false_eq_true, if_true]
  exact ⟨_, rfl⟩

theorem bytes_ne_nil_of_isAbsolute {path : Path} (h : path.isAbsolute) : path.bytes ≠ [] := by
  intro hnil
  rw [isAbsolute, hnil] at h
  cases h

theorem isAbsolute_of_parent? {path parent : Path} (h : path.parent? = some parent)
    (habsolute : path.isAbsolute) : parent.isAbsolute := by
  have hstart : start path.bytes = [slash] := by
    rw [isAbsolute, decide_eq_true_eq] at habsolute
    rw [start, if_pos habsolute]
  simp only [parent?] at h
  split at h
  · cases h
    simp [isAbsolute, hstart]
  · rw [if_neg (by simp [hstart, slash, dot])] at h
    cases h

theorem isAbsolute_of_ancestor? {path ancestor : Path} {steps : Nat}
    (h : path.ancestor? steps = some ancestor) (habsolute : path.isAbsolute) :
    ancestor.isAbsolute := by
  induction steps generalizing ancestor with
  | zero =>
    cases h
    exact habsolute
  | succ steps ih =>
    obtain ⟨below, hbelow, hparent⟩ := Option.bind_eq_some_iff.mp h
    exact isAbsolute_of_parent? hparent (ih hbelow)

end SizeGate.Path
