/-
The order of paths. It is total and transitive, and paths that stand in one
place of it have the same components to compare by. Those say what the path
is only where no component has a slash, as in a path that is read from a
text (`isClean_ofText`): otherwise a component could pass for a root. Such
paths go up strictly once they are sorted, each path once
(`ascending_mergeSort`).
-/
import Marginalia.Path
import Marginalia.Proofs.StableSort
import Marginalia.Proofs.Text.CodePoint
import Marginalia.Proofs.Text.Pieces

namespace Marginalia

namespace Path

-- ========================================================== components

/-- A path whose root, where it has one, has a slash, and whose components
have none. -/
structure IsClean (p : Path) : Prop where
  root : p.root = [] ∨ .scalar '/' ∈ p.root
  parts : ∀ part ∈ p.parts, .scalar '/' ∉ part

/-- A path that is read from a text is clean. -/
theorem isClean_ofText (t : Text) : (ofText t).IsClean where
  root := by
    show rootOf t = [] ∨ _ ∈ rootOf t
    unfold rootOf
    split
    · exact .inr (by decide)
    · exact .inr (by decide)
    · exact .inr (by decide)
    · exact .inl rfl
  parts := fun _ h => Text.not_mem_of_mem_splitOn (List.mem_filter.1 h).1

/-- Clean paths are told apart by what they are compared by. -/
theorem eq_of_keyParts_eq {p q : Path} (hp : p.IsClean) (hq : q.IsClean)
    (h : p.keyParts = q.keyParts) : p = q := by
  obtain ⟨root, parts⟩ := p
  obtain ⟨root', parts'⟩ := q
  simp only [keyParts, List.isEmpty_iff] at h
  -- a root that stands among the components of the other path has a slash
  have hroot : ∀ {root : Text} {parts others : List Text},
      root ≠ [] → (root = [] ∨ .scalar '/' ∈ root) →
      (∀ part ∈ others, .scalar '/' ∉ part) → others ≠ root :: parts := by
    rintro root parts others hne hslash hothers rfl
    exact hothers root (List.mem_cons_self ..) (hslash.resolve_left hne)
  by_cases hr : root = []
  · by_cases hr' : root' = []
    · rw [if_pos hr, if_pos hr'] at h
      rw [hr, hr', h]
    · rw [if_pos hr, if_neg hr'] at h
      exact absurd h (hroot hr' hq.root hp.parts)
  · by_cases hr' : root' = []
    · rw [if_neg hr, if_pos hr'] at h
      exact absurd h.symm (hroot hr hp.root hq.parts)
    · rw [if_neg hr, if_neg hr', List.cons.injEq] at h
      rw [h.1, h.2]

-- =============================================================== order

theorem lePartsOf_cons {a b : Text} {as bs : List Text} :
    lePartsOf (a :: as) (b :: bs) = true
      ↔ a = b ∧ lePartsOf as bs = true ∨ a ≠ b ∧ Text.le a b = true := by
  rw [lePartsOf]
  by_cases h : a = b <;> simp [h]

theorem lePartsOf_total (as bs : List Text) :
    lePartsOf as bs = true ∨ lePartsOf bs as = true := by
  induction as generalizing bs with
  | nil => exact .inl rfl
  | cons a as ih =>
      cases bs with
      | nil => exact .inr rfl
      | cons b bs =>
          rw [lePartsOf_cons, lePartsOf_cons]
          by_cases h : a = b
          · exact (ih bs).imp (.inl ⟨h, ·⟩) (.inl ⟨h.symm, ·⟩)
          · exact (Text.le_total a b).imp (.inr ⟨h, ·⟩) (.inr ⟨Ne.symm h, ·⟩)

theorem lePartsOf_antisymm {as bs : List Text}
    (h : lePartsOf as bs = true) (h' : lePartsOf bs as = true) :
    as = bs := by
  induction as generalizing bs with
  | nil =>
      cases bs with
      | nil => rfl
      | cons b bs => cases h'
  | cons a as ih =>
      cases bs with
      | nil => cases h
      | cons b bs =>
          rw [lePartsOf_cons] at h h'
          rcases h with ⟨rfl, h⟩ | ⟨hne, h⟩
          · rcases h' with ⟨-, h'⟩ | ⟨hne, -⟩
            · rw [ih h h']
            · exact absurd rfl hne
          · rcases h' with ⟨heq, -⟩ | ⟨-, h'⟩
            · exact absurd heq.symm hne
            · exact absurd (Text.le_antisymm h h') hne

theorem lePartsOf_trans {as bs cs : List Text}
    (h : lePartsOf as bs = true) (h' : lePartsOf bs cs = true) :
    lePartsOf as cs = true := by
  induction as generalizing bs cs with
  | nil => rfl
  | cons a as ih =>
      cases bs with
      | nil => cases h
      | cons b bs =>
          cases cs with
          | nil => cases h'
          | cons c cs =>
              rw [lePartsOf_cons] at h h' ⊢
              rcases h with ⟨rfl, h⟩ | ⟨hab, h⟩
              · rcases h' with ⟨rfl, h'⟩ | ⟨hac, h'⟩
                · exact .inl ⟨rfl, ih h h'⟩
                · exact .inr ⟨hac, h'⟩
              · rcases h' with ⟨rfl, -⟩ | ⟨-, h'⟩
                · exact .inr ⟨hab, h⟩
                · -- two steps up do not lead back
                  refine .inr ⟨?_, Text.le_trans h h'⟩
                  rintro rfl
                  exact hab (Text.le_antisymm h h')

/-- Paths can be sorted. -/
theorem totalPreorder_le : StableSort.TotalPreorder le where
  trans := fun _ _ _ => lePartsOf_trans
  total := fun p q => by
    rw [Bool.or_eq_true]
    exact lePartsOf_total p.keyParts q.keyParts

/-- One path comes strictly before another. -/
def Before (p q : Path) : Prop := p.le q = true ∧ q.le p = false

instance : Std.Irrefl Before where
  irrefl _ h := absurd h.1 (Bool.eq_false_iff.1 h.2)

instance : Std.Antisymm Before where
  antisymm _ _ h h' := absurd h'.1 (Bool.eq_false_iff.1 h.2)

/-- Of two different clean paths the one that does not come later comes
strictly before. -/
theorem before_of_le {p q : Path} (hp : p.IsClean) (hq : q.IsClean)
    (hne : p ≠ q) (h : p.le q = true) : p.Before q := by
  refine ⟨h, ?_⟩
  rw [Bool.eq_false_iff]
  intro h'
  exact hne (eq_of_keyParts_eq hp hq (lePartsOf_antisymm h h'))

-- ====================================================== ascending lists

/-- Clean paths go up strictly when they are sorted, each path once. -/
theorem ascending_mergeSort {l : List Path} (h : ∀ p ∈ l, p.IsClean) :
    (l.eraseDups.mergeSort le).Pairwise Before := by
  have hclean : ∀ p ∈ l.eraseDups.mergeSort le, p.IsClean := fun p hp =>
    h p (List.mem_eraseDups.1 (List.mem_mergeSort.1 hp))
  refine (totalPreorder_le.pairwise_mergeSort l).imp_of_mem ?_
  rintro p q hp hq ⟨hle, hne⟩
  exact before_of_le (hclean p hp) (hclean q hq) hne hle

end Path

end Marginalia
