/-
The pieces of a text between separators. They hold no separator, and put
together they are the text without its separators; where a separator stands for
the first time, the first piece ends.
-/
import Marginalia.Text.CodePoint

namespace Marginalia.Text

/-- The pieces between separators hold none. -/
theorem not_mem_of_mem_splitOn {c : CodePoint} {t piece : Text}
    (h : piece ∈ splitOn c t) : c ∉ piece := by
  induction t generalizing piece with
  | nil =>
      rw [List.mem_singleton.1 h]
      exact List.not_mem_nil
  | cons a t ih =>
      rw [splitOn] at h
      by_cases ha : a = c
      · rw [if_pos ha] at h
        rcases List.mem_cons.1 h with rfl | h
        · exact List.not_mem_nil
        · exact ih h
      · rw [if_neg ha] at h
        cases hsplit : splitOn c t with
        | nil =>
            rw [hsplit] at h
            rw [List.mem_singleton.1 h, List.mem_singleton]
            exact Ne.symm ha
        | cons first pieces =>
            rw [hsplit] at h ih
            rcases List.mem_cons.1 h with rfl | h
            · rw [List.mem_cons, not_or]
              exact ⟨Ne.symm ha, ih (List.mem_cons_self ..)⟩
            · exact ih (List.mem_cons_of_mem _ h)

/-- The pieces between separators, put together, are the text without
them. -/
theorem flatten_splitOn_sublist (separator : CodePoint) (t : Text) :
    (splitOn separator t).flatten.Sublist t := by
  induction t with
  | nil => exact List.Sublist.refl _
  | cons c t ih =>
      unfold splitOn
      split
      · exact ih.cons c
      · split
        · exact List.Sublist.cons_cons c (List.nil_sublist t)
        · next heq =>
          rw [heq] at ih
          exact ih.cons_cons c

theorem splitOn_of_not_mem {c : CodePoint} {t : Text} (h : c ∉ t) :
    splitOn c t = [t] := by
  induction t with
  | nil => rfl
  | cons a t ih =>
      rw [List.mem_cons, not_or] at h
      obtain ⟨ha, ht⟩ := h
      rw [splitOn, if_neg (Ne.symm ha), ih ht]

theorem splitOn_append_cons {c : CodePoint} {t : Text} (h : c ∉ t) (u : Text) :
    splitOn c (t ++ c :: u) = t :: splitOn c u := by
  induction t with
  | nil => rw [List.nil_append, splitOn, if_pos rfl]
  | cons a t ih =>
      rw [List.mem_cons, not_or] at h
      obtain ⟨ha, ht⟩ := h
      rw [List.cons_append, splitOn, if_neg (Ne.symm ha), ih ht]

end Marginalia.Text
