import Mathlib.Data.List.TakeWhile
import SizeGate.Proofs.Path
import SizeGate.Proofs.Reading

/-!
The components of a parent, and of a path that a name is joined to.

What is left once the end of a path is trimmed ends in a name, and that name is the last component.
So the step to the parent drops one component and keeps the beginning of the spelling, however the
path is spelt (`parent?_isPrefix`, `components_of_parent?`), and joining a name puts one component
behind the others (`components_join`). Main statements: the chain of parents has at most one path
more than its start has components (`length_ancestors_le`), no two of them have equally many
(`pairwise_ancestors`), and it ends at the root or at the empty path (`getLast?_ancestors`).
-/

namespace SizeGate.Path

/-- A name that a directory has once a path is normalised. -/
structure IsName (name : Bytes) : Prop where
  ne_nil : name ≠ []
  not_mem : slash ∉ name
  ne_dot : name ≠ [dot]

variable {bytes kept name rest front back : Bytes} {path parent : Path}

/-- There is nothing to trim behind a name. -/
theorem trimEnd_reverse_append (hname : IsName name) (rest : Bytes) :
    trimEnd (name.reverse ++ rest) = name.reverse ++ rest := by
  obtain ⟨last, before, hreverse⟩ :=
    List.exists_cons_of_ne_nil (List.reverse_ne_nil_iff.mpr hname.ne_nil)
  have hmem : ∀ b ∈ last :: before, b ≠ slash := by
    rintro b member rfl
    rw [← hreverse, List.mem_reverse] at member
    exact hname.not_mem member
  have hdot : ¬ (last = dot ∧ (before ++ rest = [] ∨ (before ++ rest).head? = some slash)) := by
    rintro ⟨rfl, hend⟩
    cases before with
    | nil => exact hname.ne_dot (List.reverse_eq_iff.mp hreverse)
    | cons second _ =>
      rcases hend with hnil | hhead
      · cases hnil
      · exact hmem second (by simp) (Option.some.inj hhead)
  rw [hreverse, List.cons_append, trimEnd, if_neg (hmem last List.mem_cons_self), if_neg hdot]

theorem dropName_reverse_append (hname : IsName name) (hrest : ∀ b ∈ rest.head?, b = slash) :
    dropName (name.reverse ++ rest) = rest.drop 1 := by
  have hfront : ∀ b ∈ name.reverse, (b != slash) = true := by
    intro b member
    rw [bne_iff_ne]
    rintro rfl
    exact hname.not_mem (List.mem_reverse.mp member)
  have hstop : ∀ b ∈ rest.head?, (b != slash) = false := by
    intro b member
    rw [hrest b member, bne_self_eq_false]
  rw [dropName, dropWhile_append_of_stop hfront hstop]

theorem names_of_isName (hname : IsName name) : names name = [name] := by
  have hwhole : ∀ bytes : Bytes, slash ∉ bytes → segments bytes = [bytes] := by
    intro bytes
    induction bytes with
    | nil => intro _; rfl
    | cons first rest ih =>
      intro hnot
      rw [List.mem_cons, not_or] at hnot
      rw [segments, if_neg (Ne.symm hnot.1), ih hnot.2]
  rw [names, hwhole name hname.not_mem]
  simp [hname.ne_nil, hname.ne_dot]

/-- What is left once the end is trimmed ends neither in a slash nor in a lone dot. -/
theorem of_trimEnd_eq_cons {reversed before : Bytes} {last : UInt8}
    (h : trimEnd reversed = last :: before) :
    last ≠ slash ∧ ¬ (last = dot ∧ (before = [] ∨ before.head? = some slash)) := by
  induction reversed with
  | nil => cases h
  | cons first rest ih =>
    rw [trimEnd] at h
    split at h
    · exact ih h
    · next hslash =>
      split at h
      · exact ih h
      · next hdot =>
        cases h
        exact ⟨hslash, hdot⟩

/-- It ends in a name, then, if anything is left. -/
theorem exists_name_of_trimEnd {reversed : Bytes} (h : trimEnd reversed ≠ []) :
    ∃ name rest, IsName name ∧ trimEnd reversed = name.reverse ++ rest ∧
      ∀ b ∈ rest.head?, b = slash := by
  obtain ⟨last, before, htrim⟩ := List.exists_cons_of_ne_nil h
  obtain ⟨hslash, hdot⟩ := of_trimEnd_eq_cons htrim
  have hstop : ∀ b ∈ (before.dropWhile (· != slash)).head?, b = slash := by
    intro b member
    have hhead := List.head?_dropWhile_not (· != slash) before
    rw [Option.mem_def.mp member] at hhead
    simpa using hhead
  have hfront : ∀ b ∈ last :: before.takeWhile (· != slash), b ≠ slash := by
    intro b member
    rcases List.mem_cons.mp member with rfl | htaken
    · exact hslash
    · exact bne_iff_ne.mp (List.mem_takeWhile_imp (p := (· != slash)) htaken)
  refine ⟨(last :: before.takeWhile (· != slash)).reverse, before.dropWhile (· != slash),
    ⟨by simp, fun member => hfront slash (List.mem_reverse.mp member) rfl, ?_⟩, ?_, hstop⟩
  · intro hlone
    obtain ⟨rfl, htaken⟩ := List.cons.inj (List.reverse_eq_iff.mp hlone)
    refine hdot ⟨rfl, ?_⟩
    cases before with
    | nil => exact .inl rfl
    | cons second _ => exact .inr (by simpa [List.takeWhile_eq_nil_iff] using htaken)
  · rw [htrim, List.reverse_reverse, List.cons_append, List.takeWhile_append_dropWhile]

theorem trimEnd_ne_dot (reversed : Bytes) : (trimEnd reversed).reverse ≠ [dot] := by
  intro hlone
  have htrim : trimEnd reversed = [dot] := List.reverse_eq_iff.mp hlone
  exact (of_trimEnd_eq_cons htrim).2 ⟨rfl, .inl rfl⟩

theorem trimEnd_suffix (reversed : Bytes) : trimEnd reversed <:+ reversed := by
  induction reversed with
  | nil => exact List.suffix_rfl
  | cons last before ih =>
    have hbefore := ih.trans (List.suffix_cons last before)
    rw [trimEnd]
    split
    · exact hbefore
    · split
      · exact hbefore
      · exact List.suffix_rfl

theorem dropName_suffix (reversed : Bytes) : dropName reversed <:+ reversed :=
  (List.drop_suffix _ _).trans (List.dropWhile_suffix _)

/-- A path without its last component, before the start is put in front of it again, is spelt like
the beginning of the path. -/
theorem trimEnd_dropName_isPrefix (bytes : Bytes) :
    (trimEnd (dropName (trimEnd bytes.reverse))).reverse <+: bytes := by
  rw [← List.reverse_suffix, List.reverse_reverse]
  exact (trimEnd_suffix _).trans ((dropName_suffix _).trans (trimEnd_suffix _))

theorem start_cons (first : UInt8) (rest : Bytes) : start (first :: rest) =
    if first = slash then [slash]
    else if first = dot ∧ rest.head?.getD slash = slash then [dot] else [] := by
  simp [start]

/-- The start is settled by the first byte and the one behind it, if there is one. -/
theorem start_of_isPrefix (hbegins : front <+: bytes) (hne : front ≠ [])
    (hdot : front = [dot] → start bytes = [dot]) : start front = start bytes := by
  obtain ⟨back, rfl⟩ := hbegins
  obtain ⟨first, more, rfl⟩ := List.exists_cons_of_ne_nil hne
  cases more with
  | nil =>
    by_cases hfirst : first = dot
    · subst hfirst
      exact (hdot rfl).symm
    · by_cases hslash : first = slash <;> simp [start_cons, hfirst, hslash]
  | cons second _ => rfl

theorem start_append_isPrefix (hbegins : kept <+: body bytes) : start bytes ++ kept <+: bytes := by
  obtain ⟨back, hback⟩ := hbegins
  exact ⟨back, by rw [List.append_assoc, hback, start_append_body]⟩

/-- A path keeps its start for as long as it does not become a lone dot. -/
theorem start_append_of_isPrefix (hbegins : kept <+: body bytes) (hend : kept ≠ [dot]) :
    start (start bytes ++ kept) = start bytes := by
  by_cases hnil : start bytes ++ kept = []
  · rw [hnil, (List.append_eq_nil_iff.mp hnil).1]
    rfl
  · refine start_of_isPrefix (start_append_isPrefix hbegins) hnil fun hlone => ?_
    rcases start_cases bytes with hstart | hstart | hstart
    all_goals rw [hstart] at hlone
    · cases hlone
    · exact hstart
    · exact absurd hlone hend

/-- The names of a path that ends in a name: those before the slash in front of it, and this one. -/
theorem names_append_name (hname : IsName name) (hrest : ∀ b ∈ rest.head?, b = slash) :
    names (name.reverse ++ rest).reverse = names (rest.drop 1).reverse ++ [name] := by
  rw [List.reverse_append, List.reverse_reverse]
  cases rest with
  | nil => exact names_of_isName hname
  | cons first more =>
    obtain rfl : first = slash := hrest first rfl
    rw [List.reverse_cons, List.append_assoc, List.singleton_append, names_append_slash,
      names_of_isName hname]
    rfl

/-- Where there is no name, trimming the end leaves nothing. -/
theorem trimEnd_eq_nil_of_names {reversed : Bytes} (h : names reversed.reverse = []) :
    trimEnd reversed = [] := by
  by_contra htrim
  obtain ⟨name, rest, hname, hsplit, hrest⟩ := exists_name_of_trimEnd htrim
  rw [← names_reverse_trimEnd, hsplit, names_append_name hname hrest] at h
  simp at h

/-- What a step up can do: drop the last name and keep what stands before it behind the start of the
path, or drop a start that is a dot with no name behind it. -/
theorem parent?_cases (h : path.parent? = some parent) :
    (∃ kept name, parent = ⟨start path.bytes ++ kept⟩ ∧ kept <+: body path.bytes ∧
      kept ≠ [dot] ∧ names (body path.bytes) = names kept ++ [name] ∧
      (names kept = [] → kept = [])) ∨
    (start path.bytes = [dot] ∧ names (body path.bytes) = [] ∧ parent = ⟨[]⟩) := by
  simp only [parent?] at h
  split at h
  · next htrim =>
    obtain ⟨name, rest, hname, hsplit, hrest⟩ := exists_name_of_trimEnd htrim
    have hbegins := trimEnd_dropName_isPrefix (body path.bytes)
    rw [hsplit, dropName_reverse_append hname hrest] at h hbegins
    cases h
    refine .inl ⟨_, name, rfl, hbegins, trimEnd_ne_dot _, ?_, fun hnone => ?_⟩
    · rw [names_reverse_trimEnd, ← names_append_name hname hrest, ← hsplit,
        names_reverse_trimEnd, List.reverse_reverse]
    · rw [names_reverse_trimEnd] at hnone
      rw [trimEnd_eq_nil_of_names hnone, List.reverse_nil]
  · next htrim =>
    split at h
    · next hdot =>
      cases h
      refine .inr ⟨hdot, ?_, rfl⟩
      simpa using names_of_trimEnd_eq_nil (Decidable.not_not.mp htrim)
    · cases h

/-- The spelling of a parent is the beginning of the spelling of the path. -/
theorem parent?_isPrefix (h : path.parent? = some parent) : parent.bytes <+: path.bytes := by
  rcases parent?_cases h with ⟨kept, name, rfl, hbegins, -⟩ | ⟨-, -, rfl⟩
  · exact start_append_isPrefix hbegins
  · exact List.nil_prefix

/-- A parent has all the components of the path but the last. -/
theorem components_of_parent? (h : path.parent? = some parent) :
    ∃ last, path.components = parent.components ++ [last] := by
  rcases parent?_cases h with ⟨kept, name, rfl, hbegins, hend, hnames, -⟩ | ⟨hdot, hnames, rfl⟩
  · have hstart := start_append_of_isPrefix hbegins hend
    refine ⟨.name name, ?_⟩
    rw [components_eq_names, components_eq_names, hnames, body, hstart, List.drop_left,
      List.map_append, List.append_assoc]
    rfl
  · refine ⟨.here, ?_⟩
    rw [components_eq_names, hnames, hdot]
    rfl

/-- Repeated slashes, inner and final dots, a leading dot, two dots, and a root. -/
example : (ofString "a//b/./").parent? = some (ofString "a") ∧
    (ofString "./a").parent? = some (ofString ".") ∧
    (ofString "../..").parent? = some (ofString "..") ∧ (ofString "//.").parent? = none := by
  decide +kernel

theorem isAbsolute_iff (path : Path) : path.isAbsolute ↔ start path.bytes = [slash] := by
  rw [isAbsolute, decide_eq_true_eq]
  refine ⟨fun h => if_pos h, fun h => ?_⟩
  rw [← start_append_body path.bytes, h]
  rfl

theorem isAbsolute_of_components (h : path.components = [.root]) : path.isAbsolute := by
  rw [isAbsolute_iff]
  by_contra hstart
  rw [components_eq_names, if_neg hstart] at h
  split at h
  · cases h
  · obtain ⟨name, -, hname⟩ : ∃ name ∈ names (body path.bytes), Component.name name = .root := by
      rw [← List.mem_map, ← List.nil_append (List.map _ _), h]
      exact List.mem_singleton_self _
    cases hname

theorem start_append_slash (h : front ≠ []) (back : Bytes) :
    start (front ++ slash :: back) = start front := by
  refine (start_of_isPrefix (List.prefix_append _ _) h ?_).symm
  rintro rfl
  rfl

theorem components_append_slash (h : front ≠ []) (back : Bytes) :
    components ⟨front ++ slash :: back⟩ = components ⟨front⟩ ++ (names back).map .name := by
  have hstart : (start front).length ≤ front.length := by
    have hsplit := congrArg List.length (start_append_body front)
    rw [List.length_append] at hsplit
    omega
  rw [components_eq_names, components_eq_names, start_append_slash h, body, start_append_slash h,
    List.drop_append_of_le_length hstart, ← body, names_append_slash, List.map_append,
    List.append_assoc]

theorem components_root (back : Bytes) :
    components ⟨slash :: back⟩ = .root :: (names back).map .name := rfl

theorem start_of_isName (hname : IsName name) : start name = [] := by
  obtain ⟨first, more, rfl⟩ := List.exists_cons_of_ne_nil hname.ne_nil
  have hslash : first ≠ slash := fun h => hname.not_mem (by simp [h])
  rw [start_cons, if_neg hslash, if_neg]
  rintro ⟨rfl, hbehind⟩
  cases more with
  | nil => exact hname.ne_dot rfl
  | cons second _ => exact hname.not_mem (by simp [show second = slash from hbehind])

theorem components_of_isName (hname : IsName name) : components ⟨name⟩ = [.name name] := by
  have hstart := start_of_isName hname
  rw [components_eq_names, body, hstart, List.length_nil, List.drop_zero, names_of_isName hname]
  rfl

/-- A name that is joined to a path is one component more, behind all others. -/
theorem components_join (base : Path) (hname : IsName name) :
    (base.join ⟨name⟩).components = base.components ++ [.name name] := by
  have hrelative : ¬ isAbsolute ⟨name⟩ := by
    simp [isAbsolute_iff, start_of_isName hname]
  obtain ⟨base⟩ := base
  rw [join, if_neg hrelative]
  split
  · next hend =>
    rcases hend with rfl | hlast
    · exact components_of_isName hname
    · -- The slash that is there already is the one between the components.
      obtain ⟨front, rfl⟩ := List.getLast?_eq_some_iff.mp hlast
      rw [List.append_assoc, List.singleton_append]
      by_cases hfront : front = []
      · subst hfront
        rw [List.nil_append, List.nil_append, components_root, components_root,
          names_of_isName hname]
        rfl
      · rw [components_append_slash hfront, components_append_slash hfront,
          names_of_isName hname]
        simp [names, segments]
  · next hend =>
    rw [components_append_slash fun hnil => hend (.inl hnil), names_of_isName hname]
    rfl

theorem isAbsolute_parent? (h : path.parent? = some parent) :
    parent.isAbsolute = path.isAbsolute := by
  refine Bool.eq_iff_iff.mpr ⟨fun habsolute => ?_, isAbsolute_of_parent? h⟩
  obtain ⟨back, hback⟩ := parent?_isPrefix h
  rw [isAbsolute, decide_eq_true_eq] at habsolute ⊢
  rw [← hback, List.head?_append, habsolute]
  rfl

/-- Induction on the chain of parents, from its end down. -/
@[elab_as_elim]
theorem upwards {motive : Path → Prop} (top : ∀ path, path.parent? = none → motive path)
    (up : ∀ path parent, path.parent? = some parent → motive parent → motive path) (path : Path) :
    motive path := by
  induction path using ancestors.induct with
  | case1 path ih =>
    cases h : path.parent? with
    | none => exact top path h
    | some parent => exact up path parent h (ih parent h)

/-- With each step up there is one component less. -/
theorem length_components_of_parent? (h : path.parent? = some parent) :
    path.components.length = parent.components.length + 1 := by
  obtain ⟨last, hlast⟩ := components_of_parent? h
  rw [hlast, List.length_append, List.length_singleton]

theorem length_ancestors_le (path : Path) :
    path.ancestors.length ≤ path.components.length + 1 := by
  induction path using upwards with
  | top path h =>
    rw [ancestors_of_parent?_eq_none h, List.length_singleton]
    exact Nat.le_add_left 1 _
  | up path parent h ih =>
    rw [ancestors_of_parent?_eq_some h, List.length_cons, length_components_of_parent? h]
    omega

theorem length_components_le_of_mem_ancestors {ancestor : Path} (h : ancestor ∈ path.ancestors) :
    ancestor.components.length ≤ path.components.length := by
  induction path using upwards with
  | top path hparent =>
    rw [ancestors_of_parent?_eq_none hparent, List.mem_singleton] at h
    rw [h]
  | up path parent hparent ih =>
    rw [ancestors_of_parent?_eq_some hparent, List.mem_cons] at h
    rcases h with rfl | habove
    · exact Nat.le_refl _
    · have hle := ih habove
      rw [length_components_of_parent? hparent]
      omega

/-- No two paths in a chain of parents have equally many components. -/
theorem pairwise_ancestors (path : Path) : path.ancestors.Pairwise fun below above =>
    above.components.length < below.components.length := by
  induction path using upwards with
  | top path h =>
    rw [ancestors_of_parent?_eq_none h]
    exact List.pairwise_singleton _ _
  | up path parent h ih =>
    rw [ancestors_of_parent?_eq_some h, List.pairwise_cons]
    refine ⟨fun above habove => ?_, ih⟩
    have hle := length_components_le_of_mem_ancestors habove
    rw [length_components_of_parent? h]
    omega

/-- A parent that has no name left is spelt like the root itself. -/
theorem eq_root_of_parent? (h : path.parent? = some parent) (hroot : parent.components = [.root]) :
    parent = ⟨[slash]⟩ := by
  have hstart : start path.bytes = [slash] := by
    rw [← isAbsolute_iff, ← isAbsolute_parent? h]
    exact isAbsolute_of_components hroot
  rcases parent?_cases h with ⟨kept, name, rfl, -, -, -, hkept⟩ | ⟨hdot, -, -⟩
  · rw [hstart, List.singleton_append, components_root, List.cons.injEq,
      List.map_eq_nil_iff] at hroot
    rw [hstart, hkept hroot.2, List.append_nil]
  · rw [hstart] at hdot
    cases hdot

/-- The chain of parents ends at the root, or at the empty path if it starts from a relative one. -/
theorem getLast?_ancestors (path : Path) : ∃ top, path.ancestors.getLast? = some top ∧
    (path.isAbsolute → top.components = [.root] ∧ (top = path ∨ top = ⟨[slash]⟩)) ∧
    (¬ path.isAbsolute → top = ⟨[]⟩) := by
  induction path using upwards with
  | top path h =>
    rw [ancestors_of_parent?_eq_none h]
    refine ⟨path, rfl, ?_⟩
    rcases eq_nil_or_components_of_parent?_eq_none h with rfl | hroot
    · exact ⟨fun habsolute => Bool.noConfusion habsolute, fun _ => rfl⟩
    · exact ⟨fun _ => ⟨hroot, .inl rfl⟩,
        fun hrelative => absurd (isAbsolute_of_components hroot) hrelative⟩
  | up path parent h ih =>
    obtain ⟨top, htop, habsolute, hrelative⟩ := ih
    rw [ancestors_of_parent?_eq_some h, ← isAbsolute_parent? h]
    refine ⟨top, ?_, fun hstart => ?_, hrelative⟩
    · rw [List.getLast?_cons, htop, Option.getD_some]
    · obtain ⟨hroot, rfl | hslash⟩ := habsolute hstart
      · exact ⟨hroot, .inr (eq_root_of_parent? h hroot)⟩
      · exact ⟨hroot, .inr hslash⟩

end SizeGate.Path
