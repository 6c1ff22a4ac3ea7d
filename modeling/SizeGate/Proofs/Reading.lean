/-!
What readers rest on.

A reader may fail, and it goes on with what the one before it gave. Each way of going on with a
result is turned into what it takes to succeed (`bind_eq_ok_iff`, `map_eq_ok_iff`): the readers of
the command line and of a config are opened with these and never by cases on their errors. Where a
failure itself is of interest, a change of the result does not touch it (`map_eq_error_iff`). A
reader of text stops where a condition ends, and a text that is known to be cut there is taken apart
by name (`takeWhile_append_of_stop`, `dropWhile_append_of_stop`).
-/

namespace SizeGate

theorem bind_eq_ok_iff {ε α β : Type} (first : Except ε α) (next : α → Except ε β) (value : β) :
    (first >>= next) = .ok value ↔ ∃ middle, first = .ok middle ∧ next middle = .ok value := by
  constructor
  · intro h
    cases first with
    | error problem => cases h
    | ok middle => exact ⟨middle, rfl, h⟩
  · rintro ⟨middle, rfl, hnext⟩
    exact hnext

theorem map_eq_ok_iff {ε α β : Type} (f : α → β) (result : Except ε α) (value : β) :
    result.map f = .ok value ↔ ∃ inner, result = .ok inner ∧ f inner = value := by
  constructor
  · intro h
    cases result with
    | error problem => cases h
    | ok inner => exact ⟨inner, rfl, Except.ok.inj h⟩
  · rintro ⟨inner, rfl, rfl⟩
    rfl

theorem map_eq_error_iff {ε α β : Type} (f : α → β) (result : Except ε α) (problem : ε) :
    result.map f = .error problem ↔ result = .error problem := by
  constructor
  · intro h
    cases result with
    | error _ => cases h; rfl
    | ok inner => cases h
  · rintro rfl
    rfl

theorem mapError_eq_ok_iff {ε δ α : Type} (f : ε → δ) (result : Except ε α) (value : α) :
    result.mapError f = .ok value ↔ result = .ok value := by
  constructor
  · intro h
    cases result with
    | error problem => cases h
    | ok _ => cases h; rfl
  · rintro rfl
    rfl

theorem eq_ok_of_toOption_eq_some {ε α : Type} {result : Except ε α} {value : α}
    (h : result.toOption = some value) : result = .ok value := by
  cases result with
  | error problem => cases h
  | ok inner => exact congrArg Except.ok (Option.some.inj h)

section Cut

variable {α : Type} {p : α → Bool} {front rest : List α}

theorem takeWhile_append_of_stop (hfront : ∀ a ∈ front, p a = true)
    (hrest : ∀ a ∈ rest.head?, p a = false) : (front ++ rest).takeWhile p = front := by
  have hstop : rest.takeWhile p = [] := by
    cases rest with
    | nil => rfl
    | cons a rest => simp [hrest a rfl]
  rw [List.takeWhile_append_of_pos hfront, hstop, List.append_nil]

theorem dropWhile_append_of_stop (hfront : ∀ a ∈ front, p a = true)
    (hrest : ∀ a ∈ rest.head?, p a = false) : (front ++ rest).dropWhile p = rest := by
  have hstop : rest.dropWhile p = rest := by
    cases rest with
    | nil => rfl
    | cons a rest => simp [hrest a rfl]
  rw [List.dropWhile_append_of_pos hfront, hstop]

end Cut

end SizeGate
