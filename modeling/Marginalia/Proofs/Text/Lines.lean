/-
How a text falls into lines: a line that ends in LF is the first one of a
text that starts with it, and the lines of a text that ends in LF are the
first ones of all texts that start with it. Text without controls stays on
one line.
-/
import Marginalia.Text.Lines

namespace Marginalia.Text

-- ============================================================ printed

/-- No code point of the text is a control of ASCII. -/
def Printed (t : Text) : Prop := ∀ c ∈ t, 0x20 ≤ c.toNat

instance (t : Text) : Decidable (Printed t) :=
  inferInstanceAs (Decidable (∀ c ∈ t, 0x20 ≤ c.toNat))

namespace Printed

theorem nil : Printed [] := fun _ hc => absurd hc List.not_mem_nil

theorem append {t u : Text} (ht : Printed t) (hu : Printed u) :
    Printed (t ++ u) := by
  intro c hc
  rcases List.mem_append.1 hc with hc | hc
  · exact ht c hc
  · exact hu c hc

/-- What ends a line is not printed. -/
theorem not_mem {t : Text} (h : Printed t) {c : CodePoint}
    (hc : c.toNat < 0x20) : c ∉ t :=
  fun hm => absurd (h c hm) (Nat.not_le.2 hc)

end Printed

-- ============================================================== lines

/-- A code point that ends no line belongs to the first line. -/
theorem lines_cons {c : CodePoint} (hlf : c ≠ .scalar '\n')
    (hcr : c ≠ .scalar '\r') {t l : Text} {ls : List Text}
    (h : lines t = l :: ls) : lines (c :: t) = (c :: l) :: ls := by
  rw [lines.eq_def]
  split
  · next heq => cases heq
  · next heq =>
    injection heq with hc
    exact absurd hc hcr
  · next heq =>
    injection heq with hc
    exact absurd hc hcr
  · next heq =>
    injection heq with hc
    exact absurd hc hlf
  · next heq =>
    injection heq with hc ht
    rw [← hc, ← ht, h]

/-- A text that ends no line is one line. -/
theorem lines_plain {l : Text} (hl : .scalar '\n' ∉ l ∧ .scalar '\r' ∉ l)
    (hne : l ≠ []) : lines l = [l] := by
  induction l with
  | nil => exact absurd rfl hne
  | cons c l ih =>
      have hlf : c ≠ .scalar '\n' := fun h => hl.1 (h ▸ List.mem_cons_self ..)
      have hcr : c ≠ .scalar '\r' := fun h => hl.2 (h ▸ List.mem_cons_self ..)
      by_cases hnil : l = []
      · subst hnil
        simp [lines]
      · refine lines_cons hlf hcr (ih ⟨fun h => ?_, fun h => ?_⟩ hnil)
        · exact hl.1 (List.mem_cons_of_mem _ h)
        · exact hl.2 (List.mem_cons_of_mem _ h)

/-- The part in front of the first LF is a line. -/
theorem lines_append_newline {l : Text} (hlf : .scalar '\n' ∉ l)
    (hcr : .scalar '\r' ∉ l) (t : Text) :
    lines (l ++ .scalar '\n' :: t) = l :: lines t := by
  induction l with
  | nil => rw [List.nil_append, lines]
  | cons c l ih =>
      have hrest : lines (l ++ .scalar '\n' :: t) = l :: lines t :=
        ih (fun h => hlf (List.mem_cons_of_mem _ h))
          (fun h => hcr (List.mem_cons_of_mem _ h))
      refine lines_cons ?_ ?_ hrest
      · exact fun h => hlf (h ▸ List.mem_cons_self ..)
      · exact fun h => hcr (h ▸ List.mem_cons_self ..)

/-- A text that is not empty has a line. -/
theorem lines_ne_nil {t : Text} (h : t ≠ []) : lines t ≠ [] := by
  fun_cases lines t with
  | case1 => exact absurd rfl h
  | case2 | case3 | case4 | case5 | case6 => simp

/-- A CR that no LF follows ends a line by itself. -/
theorem lines_return {c : CodePoint} (h : c ≠ .scalar '\n') (t : Text) :
    lines (.scalar '\r' :: c :: t) = [] :: lines (c :: t) := by
  rw [lines]
  intro t' heq
  injection heq with hc
  exact h hc

/-- A code point that ends no line joins the first line of a text, whatever
follows the LF at the end of it. -/
theorem lines_cons_append {c : CodePoint} (hlf : c ≠ .scalar '\n')
    (hcr : c ≠ .scalar '\r') {t u : Text}
    (h : lines (t ++ .scalar '\n' :: u)
      = lines (t ++ [.scalar '\n']) ++ lines u) :
    lines (c :: t ++ .scalar '\n' :: u)
      = lines (c :: t ++ [.scalar '\n']) ++ lines u := by
  obtain ⟨l, ls, hl⟩ := List.exists_cons_of_ne_nil
    (lines_ne_nil (t := t ++ [.scalar '\n']) (by simp))
  rw [hl, List.cons_append] at h
  rw [List.cons_append, List.cons_append, lines_cons hlf hcr hl,
    lines_cons hlf hcr h, List.cons_append]

/-- An LF parts the lines before it from those behind it. -/
theorem lines_append_cons (t u : Text) :
    lines (t ++ .scalar '\n' :: u)
      = lines (t ++ [.scalar '\n']) ++ lines u := by
  fun_induction lines t with
  | case1 => rfl
  | case2 t ih | case4 t ih =>
      show [] :: lines (t ++ _) = [] :: lines (t ++ _) ++ lines u
      rw [ih, List.cons_append]
  | case3 t hnot ih =>
      -- a CR at the very end makes one line terminator with the LF
      cases t with
      | nil => rfl
      | cons c t =>
          have hc : c ≠ .scalar '\n' := fun h => hnot t (by rw [h])
          rw [List.cons_append, List.cons_append, List.cons_append,
            List.cons_append, lines_return hc, lines_return hc,
            List.cons_append]
          exact congrArg _ ih
  | case5 c t _ hcr hlf _ ih => exact lines_cons_append hlf hcr ih
  | case6 c t _ hcr hlf _ _ _ ih => exact lines_cons_append hlf hcr ih

/-- The text ends where a line ends. -/
def EndsLine (t : Text) : Prop := t = [] ∨ t.endsWith "\n" = true

/-- Where a text ends with a line, the lines of what follows come after
its lines. -/
theorem EndsLine.lines_append {t : Text} (h : EndsLine t) (u : Text) :
    lines (t ++ u) = lines t ++ lines u := by
  rcases h with rfl | h
  · rfl
  · obtain ⟨t, rfl⟩ := List.isSuffixOf_iff_suffix.1 h
    rw [List.append_assoc]
    exact lines_append_cons t u

/-- A line is part of its text. -/
theorem subset_of_mem_lines {t l : Text} (h : l ∈ lines t) : l ⊆ t := by
  fun_induction lines t generalizing l with
  | case1 => cases h
  | case2 t ih =>
      rcases List.mem_cons.1 h with rfl | h
      · exact List.nil_subset _
      · exact List.subset_cons_of_subset _ (List.subset_cons_of_subset _ (ih h))
  | case3 t _ ih | case4 t ih =>
      rcases List.mem_cons.1 h with rfl | h
      · exact List.nil_subset _
      · exact List.subset_cons_of_subset _ (ih h)
  | case5 c t _ _ _ hl ih =>
      rw [List.mem_singleton.1 h]
      exact List.cons_subset_cons _ (List.nil_subset _)
  | case6 c t _ _ _ l' ls hl ih =>
      rw [hl] at ih
      rcases List.mem_cons.1 h with rfl | h
      · exact List.cons_subset_cons _ (ih (List.mem_cons_self ..))
      · exact List.subset_cons_of_subset _ (ih (List.mem_cons_of_mem _ h))

theorem Printed.lines {l : Text} (h : Printed l) (t : Text) :
    Text.lines (l ++ .scalar '\n' :: t) = l :: Text.lines t :=
  lines_append_newline (h.not_mem (by decide)) (h.not_mem (by decide)) t

end Marginalia.Text
