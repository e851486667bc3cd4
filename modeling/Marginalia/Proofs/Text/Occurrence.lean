/-
Where a pattern occurs in a text, by columns. A column of a text is a
number of code points before it; what stands from column `n` on is
`t.drop n`. Cutting a text at a pattern finds the first column where the
pattern starts.
-/
import Marginalia.Text.CodePoint

namespace Marginalia.Text

-- ============================================================== columns

/-- The pattern starts at a column of the text. -/
def StartsAt (pattern t : Text) (column : Nat) : Prop :=
  pattern <+: t.drop column

/-- The first column, at or after `start`, where the pattern starts. -/
structure FirstAt (pattern t : Text) (start column : Nat) : Prop where
  le : start ≤ column
  starts : StartsAt pattern t column
  first : ∀ c, start ≤ c → c < column → ¬ StartsAt pattern t c

theorem startsAt_zero {pattern t : Text} :
    StartsAt pattern t 0 ↔ t.startsWith pattern = true := by
  unfold StartsAt startsWith
  rw [List.drop_zero, List.isPrefixOf_iff_prefix]

/-- A text that starts otherwise does not start with the pattern. -/
theorem startsWith_of_ne {c d : CodePoint} (h : d ≠ c) (t pattern : Text) :
    startsWith (c :: t) (d :: pattern) = false := by
  unfold startsWith
  rw [List.isPrefixOf_cons_cons, beq_false_of_ne h, Bool.false_and]

/-- Columns of a text from `start` on are columns of what stands there. -/
theorem startsAt_drop {pattern t : Text} {start c : Nat} :
    StartsAt pattern (t.drop start) c ↔ StartsAt pattern t (start + c) := by
  unfold StartsAt
  rw [List.drop_drop]

theorem startsAt_cons_succ {pattern t : Text} {x : CodePoint} {c : Nat} :
    StartsAt pattern (x :: t) (c + 1) ↔ StartsAt pattern t c := Iff.rfl

/-- There is one first column. -/
theorem FirstAt.unique {pattern t : Text} {start a b : Nat}
    (ha : FirstAt pattern t start a) (hb : FirstAt pattern t start b) :
    a = b := by
  rcases Nat.lt_trichotomy a b with h | h | h
  · exact absurd ha.starts (hb.first a ha.le h)
  · exact h
  · exact absurd hb.starts (ha.first b hb.le h)

-- ================================================================= cuts

/-- A text that is not cut has the pattern nowhere. -/
theorem cut?_eq_none {pattern t : Text} (h : cut? pattern t = none) (c : Nat) :
    ¬ StartsAt pattern t c := by
  induction t generalizing c with
  | nil =>
      intro hs
      unfold StartsAt at hs
      rw [List.drop_nil, List.prefix_nil] at hs
      subst hs
      cases h
  | cons x t ih =>
      simp only [cut?] at h
      split at h
      · cases h
      · next hx =>
        split at h
        · cases h
        · next ht =>
          cases c with
          | zero => exact fun hs => hx (startsAt_zero.1 hs)
          | succ c => exact fun hs => ih ht c (startsAt_cons_succ.1 hs)

/-- A text is cut where the pattern starts first, and what follows it is
left. -/
theorem cut?_eq_some {pattern t before after : Text}
    (h : cut? pattern t = some (before, after)) :
    FirstAt pattern t 0 before.length
      ∧ after = t.drop (before.length + pattern.length) := by
  have hsplit := eq_of_cut? h
  constructor
  · refine ⟨Nat.zero_le _, ?_, ?_⟩
    · unfold StartsAt
      rw [hsplit, List.append_assoc, List.drop_left]
      exact List.prefix_append ..
    · -- no earlier occurrence: the cut goes column by column
      clear hsplit
      induction t generalizing before with
      | nil =>
          simp only [cut?] at h
          split at h
          · injection h with h
            injection h with h
            subst h
            exact fun c _ hc => absurd hc (Nat.not_lt_zero c)
          · cases h
      | cons x t ih =>
          simp only [cut?] at h
          split at h
          · injection h with h
            injection h with h
            subst h
            exact fun c _ hc => absurd hc (Nat.not_lt_zero c)
          · next hx =>
            split at h
            · next b a ht =>
              injection h with h
              injection h with hb ha
              subst hb ha
              intro c _ hc hs
              cases c with
              | zero => exact hx (startsAt_zero.1 hs)
              | succ c =>
                  exact ih ht c (Nat.zero_le c) (Nat.lt_of_succ_lt_succ hc)
                    (startsAt_cons_succ.1 hs)
            · cases h
  · rw [hsplit, ← List.length_append, List.drop_left]

/-- A cut behind column `start`, said of the whole text. -/
theorem firstAt_of_cut?_drop {pattern t before after : Text} {start : Nat}
    (h : cut? pattern (t.drop start) = some (before, after)) :
    FirstAt pattern t start (start + before.length)
      ∧ after = t.drop (start + before.length + pattern.length) := by
  obtain ⟨hfirst, hafter⟩ := cut?_eq_some h
  constructor
  · refine ⟨Nat.le_add_right .., startsAt_drop.1 hfirst.starts, ?_⟩
    intro c hle hlt hs
    obtain ⟨d, rfl⟩ := Nat.exists_eq_add_of_le hle
    exact hfirst.first d (Nat.zero_le d) (Nat.lt_of_add_lt_add_left hlt)
      (startsAt_drop.2 hs)
  · rw [hafter, List.drop_drop, Nat.add_assoc]

/-- No cut behind column `start`, said of the whole text. -/
theorem not_startsAt_of_cut?_drop {pattern t : Text} {start : Nat}
    (h : cut? pattern (t.drop start) = none) {c : Nat} (hc : start ≤ c) :
    ¬ StartsAt pattern t c := by
  obtain ⟨d, rfl⟩ := Nat.exists_eq_add_of_le hc
  exact fun hs => cut?_eq_none h d (startsAt_drop.2 hs)

/-- At a single code point a text is cut where that comes first. -/
theorem cut?_singleton_eq_some_iff {c : CodePoint} {t before after : Text} :
    cut? [c] t = some (before, after)
      ↔ t = before ++ c :: after ∧ c ∉ before := by
  induction t generalizing before with
  | nil => simp [cut?]
  | cons x t ih =>
      rw [cut?]
      by_cases hx : c = x
      · subst hx
        have hstart : startsWith (c :: t) [c] = true :=
          startsAt_zero.1 (List.prefix_append [c] t)
        rw [if_pos hstart]
        constructor
        · intro h
          cases h
          exact ⟨rfl, List.not_mem_nil⟩
        · rintro ⟨h, hc⟩
          cases before with
          | nil =>
              cases h
              rfl
          | cons y before =>
              cases h
              exact absurd (List.mem_cons_self ..) hc
      · rw [if_neg (by simp [startsWith_of_ne hx])]
        constructor
        · intro h
          split at h
          · next hcut =>
            cases h
            obtain ⟨rfl, hc⟩ := ih.1 hcut
            exact ⟨rfl, by simp [hx, hc]⟩
          · cases h
        · rintro ⟨h, hc⟩
          cases before with
          | nil =>
              cases h
              exact absurd rfl hx
          | cons y before =>
              cases h
              rw [ih.2 ⟨rfl, fun h => hc (List.mem_cons_of_mem _ h)⟩]

/-- A text without a code point is not cut at it. -/
theorem cut?_singleton_eq_none {c : CodePoint} {t : Text} (h : c ∉ t) :
    cut? [c] t = none := by
  rw [Option.eq_none_iff_forall_ne_some]
  rintro ⟨before, after⟩ hcut
  rw [(cut?_singleton_eq_some_iff.1 hcut).1] at h
  exact h (by simp)

-- =============================================================== slices

/-- The code points from column `first` up to column `last`. -/
def slice (t : Text) (first last : Nat) : Text := (t.take last).drop first

/-- The part in front of a cut is a slice. -/
theorem slice_of_cut?_drop {pattern t before after : Text} {start : Nat}
    (h : cut? pattern (t.drop start) = some (before, after)) :
    t.slice start (start + before.length) = before := by
  unfold slice
  rw [List.drop_take, Nat.add_sub_cancel_left, eq_of_cut? h,
    List.append_assoc, List.take_left]

/-- A slice up to the end is all that stands from its first column on. -/
theorem slice_length (t : Text) (first : Nat) :
    t.slice first t.length = t.drop first := by
  unfold slice
  rw [List.take_length]

end Marginalia.Text
