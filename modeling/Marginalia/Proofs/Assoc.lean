/-
Tables built from pairs. A table keeps each key once, and when no key comes
twice, the table is the list of the pairs. Setting a key again replaces what
was set, and a key that was removed is not there.
-/
import Marginalia.Assoc

namespace Marginalia.Assoc

variable {α : Type}

/-- A key that is not in a table goes to its end. -/
theorem put_of_not_mem {table : Assoc α} {key : Text}
    (h : key ∉ table.map (·.1)) (value : α) :
    put table key value = table ++ [(key, value)] := by
  induction table with
  | nil => rfl
  | cons entry rest ih =>
      obtain ⟨k, v⟩ := entry
      have hk : k ≠ key := fun he => h (he ▸ List.mem_cons_self ..)
      rw [put, if_neg hk, ih fun hm => h (List.mem_cons_of_mem _ hm),
        List.cons_append]

/-- Pairs with distinct keys are their own table. -/
theorem ofPairs_of_nodup {pairs : Assoc α}
    (h : (pairs.map (·.1)).Nodup) : ofPairs pairs = pairs := by
  have hfold : ∀ (pairs table : Assoc α),
      ((table ++ pairs).map (·.1)).Nodup →
      pairs.foldl (fun t entry => put t entry.1 entry.2) table
        = table ++ pairs := by
    intro pairs
    induction pairs with
    | nil =>
        intro table _
        exact (List.append_nil table).symm
    | cons entry rest ih =>
        intro table hnodup
        have hnew : entry.1 ∉ table.map (·.1) := by
          rw [List.map_append, List.map_cons] at hnodup
          intro hm
          exact (List.nodup_append.1 hnodup).2.2 _ hm _
            (List.mem_cons_self ..) rfl
        rw [List.foldl_cons, put_of_not_mem hnew, ih, List.append_assoc,
          List.singleton_append]
        rw [List.append_assoc, List.singleton_append]
        exact hnodup
  exact hfold pairs [] h

-- ================================================================ keys

/-- Setting a key adds it at the end unless it is there. -/
theorem keys_put (table : Assoc α) (key : Text) (value : α) :
    (put table key value).map (·.1)
      = if key ∈ table.map (·.1) then table.map (·.1)
        else table.map (·.1) ++ [key] := by
  induction table with
  | nil => rfl
  | cons entry rest ih =>
      obtain ⟨k, v⟩ := entry
      rw [put, List.map_cons]
      split
      · next hk => simp [hk]
      · next hk =>
        rw [List.map_cons, ih]
        have hne : key ≠ k := Ne.symm hk
        simp only [List.mem_cons, hne, false_or]
        split <;> rfl

/-- Setting a key keeps the keys distinct. -/
theorem nodup_put {table : Assoc α} (h : (table.map (·.1)).Nodup)
    (key : Text) (value : α) : ((put table key value).map (·.1)).Nodup := by
  rw [keys_put]
  split
  · exact h
  · next hk =>
    refine List.nodup_append.2 ⟨h, List.pairwise_singleton .., ?_⟩
    intro a ha b hb hab
    rw [List.mem_singleton.1 hb] at hab
    exact hk (hab ▸ ha)

/-- What is in a table after a key was set was there or was set. -/
theorem mem_put {table : Assoc α} {key : Text} {value : α}
    {entry : Text × α} (h : entry ∈ put table key value) :
    entry = (key, value) ∨ entry ∈ table := by
  induction table with
  | nil => exact .inl (List.mem_singleton.1 h)
  | cons first rest ih =>
      obtain ⟨k, v⟩ := first
      rw [put] at h
      split at h
      · rcases List.mem_cons.1 h with h | h
        · exact .inl h
        · exact .inr (List.mem_cons_of_mem _ h)
      · rcases List.mem_cons.1 h with h | h
        · exact .inr (h ▸ List.mem_cons_self ..)
        · rcases ih h with h | h
          · exact .inl h
          · exact .inr (List.mem_cons_of_mem _ h)

/-- A table built from pairs has each key once and holds nothing but
pairs. -/
theorem ofPairs_spec (pairs : Assoc α) :
    ((ofPairs pairs).map (·.1)).Nodup ∧ ofPairs pairs ⊆ pairs := by
  have hfold : ∀ (pairs table : Assoc α), (table.map (·.1)).Nodup →
      ((pairs.foldl (fun t entry => put t entry.1 entry.2) table).map
        (·.1)).Nodup
      ∧ pairs.foldl (fun t entry => put t entry.1 entry.2) table
        ⊆ table ++ pairs := by
    intro pairs
    induction pairs with
    | nil =>
        intro table h
        exact ⟨h, List.subset_append_left ..⟩
    | cons entry rest ih =>
        intro table h
        obtain ⟨hnodup, hsub⟩ := ih _ (nodup_put h entry.1 entry.2)
        refine ⟨hnodup, fun e he => ?_⟩
        rcases List.mem_append.1 (hsub he) with he | he
        · rcases mem_put he with rfl | he
          · exact List.mem_append_right _ (List.mem_cons_self ..)
          · exact List.mem_append_left _ he
        · exact List.mem_append_right _ (List.mem_cons_of_mem _ he)
  exact hfold pairs [] List.nodup_nil

/-- The value of a key is in the table. -/
theorem mem_of_get? {table : Assoc α} {key : Text} {value : α}
    (h : get? table key = some value) : (key, value) ∈ table := by
  induction table with
  | nil => cases h
  | cons entry rest ih =>
      obtain ⟨k, v⟩ := entry
      rw [get?] at h
      split at h
      · next hk =>
        injection h with h
        rw [hk, h]
        exact List.mem_cons_self ..
      · exact List.mem_cons_of_mem _ (ih h)

-- =============================================================== again

/-- Setting a key twice sets it to the second value. -/
theorem put_put (table : Assoc α) (key : Text) (value value' : α) :
    put (put table key value) key value' = put table key value' := by
  induction table with
  | nil => simp [put]
  | cons entry rest ih =>
      obtain ⟨k, v⟩ := entry
      by_cases hk : k = key
      · simp [put, hk]
      · simp [put, hk, ih]

/-- A key that was removed is not there. -/
theorem get?_erase (table : Assoc α) (key : Text) :
    get? (erase table key) key = none := by
  induction table with
  | nil => rfl
  | cons entry rest ih =>
      obtain ⟨k, v⟩ := entry
      unfold erase at ih ⊢
      by_cases hk : k = key
      · rw [List.filter_cons_of_neg (by simp [hk])]
        exact ih
      · rw [List.filter_cons_of_pos (by simp [hk]), get?, if_neg hk]
        exact ih

/-- The other keys stay. -/
theorem get?_erase_of_ne (table : Assoc α) {key other : Text}
    (h : key ≠ other) : get? (erase table key) other = get? table other := by
  induction table with
  | nil => rfl
  | cons entry rest ih =>
      obtain ⟨k, v⟩ := entry
      unfold erase at ih ⊢
      by_cases hk : k = key
      · rw [List.filter_cons_of_neg (by simp [hk]), ih, get?,
          if_neg (hk ▸ h)]
      · rw [List.filter_cons_of_pos (by simp [hk]), get?, get?, ih]

/-- Removing a key twice is removing it once. -/
theorem erase_erase (table : Assoc α) (key : Text) :
    erase (erase table key) key = erase table key := by
  unfold erase
  rw [List.filter_filter]
  exact List.filter_congr fun e _ => Bool.and_self _

end Marginalia.Assoc
