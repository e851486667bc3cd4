/-
Steps that may fail, and lists that are gone through with them. Of two steps
one after the other both succeed, or one of them fails (`bind_ok`,
`bind_error`). A list is gone through exactly when no element of it fails
(`exists_mapM`, `exists_of_mapM`); the results are then those of the
elements, and otherwise the failure is that of an element.
-/

namespace Marginalia.Traverse

variable {α β ε : Type} {f : α → Except ε β}

-- =============================================================== steps

theorem bind_ok {x : Except ε α} {b : β} :
    (x >>= f) = .ok b ↔ ∃ a, x = .ok a ∧ f a = .ok b := by
  cases x with
  | error e => exact ⟨nofun, nofun⟩
  | ok a =>
      constructor
      · exact fun h => ⟨a, rfl, h⟩
      · rintro ⟨a, ⟨⟩, h⟩
        exact h

theorem bind_error {x : Except ε α} {e : ε} :
    (x >>= f) = .error e
      ↔ x = .error e ∨ ∃ a, x = .ok a ∧ f a = .error e := by
  cases x with
  | error e' =>
      constructor
      · rintro ⟨⟩
        exact .inl rfl
      · rintro (⟨⟨⟩⟩ | ⟨a, ⟨⟩, -⟩)
        rfl
  | ok a =>
      constructor
      · exact fun h => .inr ⟨a, rfl, h⟩
      · rintro (⟨⟨⟩⟩ | ⟨a, ⟨⟩, h⟩)
        exact h

theorem map_ok {g : α → β} {x : Except ε α} {b : β} :
    x.map g = .ok b ↔ ∃ a, x = .ok a ∧ g a = b := by
  cases x with
  | error e => exact ⟨nofun, nofun⟩
  | ok a =>
      constructor
      · rintro ⟨⟩
        exact ⟨a, rfl, rfl⟩
      · rintro ⟨a, ⟨⟩, rfl⟩
        rfl

theorem map_error {g : α → β} {x : Except ε α} {e : ε} :
    x.map g = .error e ↔ x = .error e := by
  cases x with
  | error e' =>
      constructor
      · rintro ⟨⟩
        rfl
      · rintro ⟨⟩
        rfl
  | ok a => exact ⟨nofun, nofun⟩

-- =============================================================== lists

/-- The results for a list are that for its first element and those for the
rest. -/
theorem mapM_cons_ok {x : α} {xs : List α} {ys : List β} :
    (x :: xs).mapM f = .ok ys
      ↔ ∃ y rest, f x = .ok y ∧ xs.mapM f = .ok rest ∧ ys = y :: rest := by
  simp only [List.mapM_cons, bind_ok]
  constructor
  · rintro ⟨y, hy, rest, hrest, ⟨⟩⟩
    exact ⟨y, rest, hy, hrest, rfl⟩
  · rintro ⟨y, rest, hy, hrest, rfl⟩
    exact ⟨y, hy, rest, hrest, rfl⟩

/-- What succeeds for each of some things succeeds for all of them. -/
theorem exists_mapM {xs : List α} (h : ∀ x ∈ xs, ∃ y, f x = .ok y) :
    ∃ ys, xs.mapM f = .ok ys := by
  induction xs with
  | nil => exact ⟨[], rfl⟩
  | cons x xs ih =>
      obtain ⟨y, hy⟩ := h x (List.mem_cons_self ..)
      obtain ⟨ys, hys⟩ := ih fun z hz => h z (List.mem_cons_of_mem _ hz)
      exact ⟨y :: ys, mapM_cons_ok.2 ⟨y, ys, hy, hys, rfl⟩⟩

/-- What succeeds for all of some things succeeds for each of them. -/
theorem exists_of_mapM {xs : List α} {ys : List β} (h : xs.mapM f = .ok ys)
    {x : α} (hx : x ∈ xs) : ∃ y, f x = .ok y := by
  induction xs generalizing ys with
  | nil => cases hx
  | cons a xs ih =>
      obtain ⟨y, rest, hy, hxs, -⟩ := mapM_cons_ok.1 h
      rcases List.mem_cons.1 hx with rfl | hx
      · exact ⟨y, hy⟩
      · exact ih hxs hx

/-- The results are those of the elements. -/
theorem mem_mapM {xs : List α} {ys : List β} (h : xs.mapM f = .ok ys)
    {y : β} : y ∈ ys ↔ ∃ x ∈ xs, f x = .ok y := by
  induction xs generalizing ys with
  | nil =>
      cases h
      simp
  | cons x xs ih =>
      obtain ⟨z, rest, hx, hxs, rfl⟩ := mapM_cons_ok.1 h
      simp only [List.mem_cons, ih hxs]
      constructor
      · rintro (rfl | ⟨a, ha, hy⟩)
        · exact ⟨x, .inl rfl, hx⟩
        · exact ⟨a, .inr ha, hy⟩
      · rintro ⟨a, rfl | ha, hy⟩
        · rw [hx] at hy
          cases hy
          exact .inl rfl
        · exact .inr ⟨a, ha, hy⟩

/-- A failure is that of an element. -/
theorem error_of_mapM {xs : List α} {e : ε} (h : xs.mapM f = .error e) :
    ∃ x ∈ xs, f x = .error e := by
  induction xs with
  | nil => cases h
  | cons x xs ih =>
      simp only [List.mapM_cons, bind_error] at h
      rcases h with h | ⟨y, -, h | ⟨ys, -, h⟩⟩
      · exact ⟨x, List.mem_cons_self .., h⟩
      · obtain ⟨a, ha, hfail⟩ := ih h
        exact ⟨a, List.mem_cons_of_mem _ ha, hfail⟩
      · cases h

end Marginalia.Traverse
