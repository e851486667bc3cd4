/-
Runs at the ends of a text: a run of one kind of code points is taken up to
where it stops. Trimming takes what is blank, so a text that starts and ends
with something visible is left alone.
-/
import Marginalia.Text.Blank

namespace Marginalia.Text

-- =============================================================== runs

section Runs

variable {p : CodePoint → Bool} {run rest : Text}
  (hrun : ∀ c ∈ run, p c = true) (hrest : ∀ c ∈ rest.head?, p c = false)

include hrun hrest

/-- A run is taken up to where it stops. -/
theorem takeWhile_run : (run ++ rest).takeWhile p = run := by
  rw [List.takeWhile_append_of_pos hrun]
  cases rest with
  | nil => rw [List.takeWhile_nil, List.append_nil]
  | cons c rest =>
      have hc : ¬ p c = true := by
        rw [hrest c rfl]
        exact Bool.false_ne_true
      rw [List.takeWhile_cons_of_neg hc, List.append_nil]

/-- What is left of a text behind a run. -/
theorem dropWhile_run : (run ++ rest).dropWhile p = rest := by
  rw [List.dropWhile_append_of_pos hrun]
  cases rest with
  | nil => rfl
  | cons c rest =>
      have hc : ¬ p c = true := by
        rw [hrest c rfl]
        exact Bool.false_ne_true
      rw [List.dropWhile_cons_of_neg hc]

end Runs

-- =========================================================== visible ends

/-- The text is not empty and starts with something that is not blank. -/
def StartsVisible (t : Text) : Prop :=
  ∃ c rest, t = c :: rest ∧ c.isBlank = false

/-- The text is not empty and ends with something that is not blank. -/
def EndsVisible (t : Text) : Prop :=
  ∃ front c, t = front ++ [c] ∧ c.isBlank = false

theorem StartsVisible.append {t : Text} (h : StartsVisible t) (u : Text) :
    StartsVisible (t ++ u) := by
  obtain ⟨c, rest, rfl, hc⟩ := h
  exact ⟨c, rest ++ u, rfl, hc⟩

theorem EndsVisible.append {u : Text} (h : EndsVisible u) (t : Text) :
    EndsVisible (t ++ u) := by
  obtain ⟨front, c, rfl, hc⟩ := h
  exact ⟨t ++ front, c, (List.append_assoc ..).symm, hc⟩

/-- A text of visible code points ends with one. -/
theorem endsVisible_of_forall {t : Text} (hne : t ≠ [])
    (h : ∀ c ∈ t, c.isBlank = false) : EndsVisible t :=
  ⟨t.dropLast, t.getLast hne, (List.dropLast_concat_getLast hne).symm,
    h _ (List.getLast_mem hne)⟩

theorem trimLeft_cons_blank {c : CodePoint} (hc : c.isBlank = true)
    (t : Text) : trimLeft (c :: t) = trimLeft t :=
  List.dropWhile_cons_of_pos hc

theorem StartsVisible.trimLeft {t : Text} (h : StartsVisible t) :
    t.trimLeft = t := by
  obtain ⟨c, rest, rfl, hc⟩ := h
  exact List.dropWhile_cons_of_neg (by rw [hc]; exact Bool.false_ne_true)

theorem EndsVisible.trimRight {t : Text} (h : EndsVisible t) :
    t.trimRight = t := by
  obtain ⟨front, c, rfl, hc⟩ := h
  unfold Text.trimRight
  have hstart : StartsVisible (front ++ [c]).reverse :=
    ⟨c, front.reverse, List.reverse_concat .., hc⟩
  rw [hstart.trimLeft, List.reverse_reverse]

theorem trim_cons_blank {c : CodePoint} (hc : c.isBlank = true)
    (t : Text) : trim (c :: t) = trim t := by
  unfold trim
  rw [trimLeft_cons_blank hc]

/-- A text that starts and ends visibly is trimmed already. -/
theorem StartsVisible.trim {t : Text} (h : StartsVisible t)
    (h' : EndsVisible t) : t.trim = t := by
  unfold Text.trim
  rw [h.trimLeft, h'.trimRight]

/-- What is left of a text without its leading white space starts visibly,
if anything is left. -/
theorem startsVisible_trimLeft {t : Text} (h : t.trimLeft ≠ []) :
    t.trimLeft.StartsVisible := by
  cases ht : t.trimLeft with
  | nil => exact absurd ht h
  | cons c rest =>
      refine ⟨c, rest, rfl, ?_⟩
      have hhead : (t.dropWhile (·.isBlank)).head? = some c := by
        rw [show t.dropWhile (·.isBlank) = c :: rest from ht]
        rfl
      have hc := List.head?_dropWhile_not (fun c : CodePoint => c.isBlank) t
      rw [hhead] at hc
      exact hc

/-- Behind something visible only what follows it is trimmed. -/
theorem EndsVisible.trimRight_append {t : Text} (h : EndsVisible t)
    (u : Text) : Text.trimRight (t ++ u) = t ++ Text.trimRight u := by
  have hkeep : Text.trimLeft t.reverse = t.reverse := by
    rw [← List.reverse_reverse (Text.trimLeft t.reverse)]
    exact congrArg List.reverse h.trimRight
  unfold Text.trimRight Text.trimLeft at *
  rw [List.reverse_append, List.dropWhile_append, hkeep]
  by_cases hu : u.reverse.dropWhile (·.isBlank) = []
  · simp [hu]
  · simp [hu]

/-- Trimming keeps the head of a text that starts visibly. -/
theorem startsVisible_trimRight {t : Text} (h : StartsVisible t) :
    t.trimRight.StartsVisible := by
  obtain ⟨c, rest, rfl, hc⟩ := h
  have hends : EndsVisible [c] := ⟨[], c, rfl, hc⟩
  exact ⟨c, trimRight rest, hends.trimRight_append rest, hc⟩

/-- What is left of a text when it is trimmed starts visibly, if anything is
left. -/
theorem startsVisible_trim {t : Text} (h : t.trim ≠ []) :
    t.trim.StartsVisible := by
  refine startsVisible_trimRight (startsVisible_trimLeft fun hnil => h ?_)
  unfold trim
  rw [hnil]
  rfl

/-- What is left of a text when it is trimmed ends visibly, if anything is
left. -/
theorem endsVisible_trim {t : Text} (h : t.trim ≠ []) :
    t.trim.EndsVisible := by
  have hne : Text.trimLeft t.trimLeft.reverse ≠ [] := fun hnil => h (by
    unfold trim trimRight
    rw [hnil]
    rfl)
  obtain ⟨c, rest, heq, hc⟩ := startsVisible_trimLeft hne
  refine ⟨rest.reverse, c, ?_, hc⟩
  unfold trim trimRight
  rw [heq, List.reverse_cons]

/-- A trimmed text has no leading white space. -/
theorem trimLeft_trim (t : Text) : t.trim.trimLeft = t.trim := by
  by_cases h : t.trim = []
  · rw [h]
    rfl
  · exact (startsVisible_trim h).trimLeft

/-- Trimming takes away and adds nothing. -/
theorem trimLeft_subset (t : Text) : t.trimLeft ⊆ t :=
  List.dropWhile_subset _

theorem trim_subset (t : Text) : t.trim ⊆ t := by
  intro c hc
  unfold trim trimRight at hc
  exact trimLeft_subset t
    (List.mem_reverse.1 (trimLeft_subset _ (List.mem_reverse.1 hc)))

/-- What is trimmed off the end of a text stands behind the rest of it. -/
theorem trimRight_prefix (t : Text) : t.trimRight <+: t := by
  have hsuffix : trimLeft t.reverse <:+ t.reverse := List.dropWhile_suffix _
  unfold trimRight
  rw [← List.reverse_suffix, List.reverse_reverse]
  exact hsuffix

/-- What is trimmed off the start of a text is white space. -/
theorem exists_trimLeft (t : Text) :
    ∃ s, isBlank s = true ∧ t = s ++ t.trimLeft :=
  ⟨t.takeWhile (·.isBlank), List.all_takeWhile,
    List.takeWhile_append_dropWhile.symm⟩

/-- A text that starts visibly is not blank. -/
theorem StartsVisible.isBlank {t : Text} (h : StartsVisible t) :
    t.isBlank = false := by
  obtain ⟨c, rest, rfl, hc⟩ := h
  unfold Text.isBlank
  rw [List.all_cons, hc, Bool.false_and]

-- ======================================================= surroundings

section Surroundings

variable {s : Text} (hs : s.isBlank = true)

include hs

/-- White space in front of a text is trimmed off. -/
theorem trimLeft_blank_append (t : Text) :
    trimLeft (s ++ t) = trimLeft t :=
  List.dropWhile_append_of_pos (List.all_eq_true.1 hs)

theorem trimLeft_of_isBlank : s.trimLeft = [] := by
  have h := trimLeft_blank_append hs []
  rwa [List.append_nil] at h

/-- White space in front of a visible start is all that is trimmed off. -/
theorem trimLeft_blank_visible {t : Text} (ht : t.StartsVisible) :
    trimLeft (s ++ t) = t := by
  rw [trimLeft_blank_append hs, ht.trimLeft]

/-- White space behind a text is trimmed off. -/
theorem trimRight_append_blank (t : Text) :
    trimRight (t ++ s) = trimRight t := by
  have hreverse : isBlank s.reverse = true := by
    simpa [isBlank] using hs
  unfold trimRight
  rw [List.reverse_append, trimLeft_blank_append hreverse]

theorem trim_append_blank (t : Text) : trim (t ++ s) = trim t := by
  unfold trim
  by_cases ht : t.trimLeft = []
  · have hskip : trimLeft (t ++ s) = trimLeft s := by
      unfold trimLeft at ht ⊢
      rw [List.dropWhile_append, ht]
      rfl
    rw [hskip, trimLeft_of_isBlank hs, ht]
  · have hkeep : trimLeft (t ++ s) = trimLeft t ++ s := by
      unfold trimLeft at ht ⊢
      rw [List.dropWhile_append, if_neg (by simpa using ht)]
    rw [hkeep, trimRight_append_blank hs]

theorem trim_blank_append (t : Text) : trim (s ++ t) = trim t := by
  unfold trim
  rw [trimLeft_blank_append hs]

end Surroundings

end Marginalia.Text
