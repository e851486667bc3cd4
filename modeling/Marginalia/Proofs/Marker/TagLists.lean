/-
The tags of a marker with two tag lists. The insides of the lists are joined
before they are cut into tags, and still each list has the tags and the
problems that it has alone (`tags_of_both_lists`): the first list ended at a
bracket outside strings, so every string in it is closed, and the comma
between the two is one that is cut at. A blank list is left out, since the
comma next to it would make an empty piece.
-/
import Marginalia.Marker.Payload
import Marginalia.Proofs.Marker.Slices

namespace Marginalia.Marker

-- ============================================================ outcomes

theorem partitionOutcomes_append {ε α : Type} (xs ys : List (Except ε α)) :
    partitionOutcomes (xs ++ ys)
      = ((partitionOutcomes xs).1 ++ (partitionOutcomes ys).1,
        (partitionOutcomes xs).2 ++ (partitionOutcomes ys).2) := by
  induction xs with
  | nil => rfl
  | cons x xs ih =>
      rw [List.cons_append]
      cases x <;> simp only [partitionOutcomes, ih, List.cons_append]

-- =============================================================== lists

/-- The tags of one list and then those of another, and so the problems. -/
def bothTags (first second : List Text × List TagProblem) :
    List Text × List TagProblem :=
  (first.1 ++ second.1, first.2 ++ second.2)

/-- A blank list has no tags and no problems. -/
theorem readTagList_of_isBlank {inside : Text} (h : inside.isBlank = true) :
    readTagList inside = ([], []) := by
  rw [readTagList, if_pos h]

/-- A comma between two lists that are not blank keeps them apart, when the
strings in the first are closed. -/
theorem readTagList_comma {first second : Text}
    (hclosed : Quoting.outside.after first = .outside)
    (hfirst : first.isBlank = false) (hsecond : second.isBlank = false) :
    readTagList (first ++ .scalar ',' :: second)
      = bothTags (readTagList first) (readTagList second) := by
  have hjoined : Text.isBlank (first ++ .scalar ',' :: second) = false := by
    unfold Text.isBlank at hfirst ⊢
    rw [List.all_append, hfirst, Bool.false_and]
  unfold readTagList
  rw [hfirst, hsecond, hjoined]
  unfold Text.commaPieces
  rw [Text.commaPiecesFrom_append hclosed, List.map_append]
  exact partitionOutcomes_append _ _

/-- Two joined lists have the tags and the problems that each has alone. -/
theorem decodeTags_joinInsides {first second : Text}
    (hclosed : Quoting.outside.after first = .outside) :
    decodeTags (joinInsides [first, second])
      = bothTags (readTagList first) (readTagList second) := by
  show readTagList (Text.joinWith "," ([first, second].filter _)) = _
  by_cases hfirst : first.isBlank = true
  · rw [readTagList_of_isBlank hfirst, List.filter_cons_of_neg (by simp [hfirst])]
    by_cases hsecond : second.isBlank = true
    · rw [readTagList_of_isBlank hsecond,
        List.filter_cons_of_neg (by simp [hsecond])]
      rfl
    · rw [List.filter_cons_of_pos (by simp [hsecond])]
      rfl
  · rw [List.filter_cons_of_pos (by simp [hfirst])]
    by_cases hsecond : second.isBlank = true
    · rw [readTagList_of_isBlank hsecond,
        List.filter_cons_of_neg (by simp [hsecond])]
      simp [Text.joinWith, bothTags]
    · rw [List.filter_cons_of_pos (by simp [hsecond])]
      rw [Bool.not_eq_true] at hfirst hsecond
      show readTagList (first ++ [.scalar ','] ++ second) = _
      rw [List.append_assoc]
      exact readTagList_comma hclosed hfirst hsecond

-- ============================================================= markers

/-- A list with anything behind it is closed. -/
theorem ListSlice.after_of_ne {inside slice rest : Text}
    (h : ListSlice (some inside) slice rest) (hne : rest ≠ []) :
    Quoting.outside.after inside = .outside := by
  cases h with
  | closed opens after bare => exact after
  | unclosed opens bare => exact absurd rfl hne

/-- A tag list is not empty. -/
theorem ListSlice.ne_nil {inside slice rest : Text}
    (h : ListSlice (some inside) slice rest) : slice ≠ [] := by
  cases h with
  | closed opens | unclosed opens =>
      obtain ⟨s, s', -, -, rfl⟩ := opens
      exact List.cons_ne_nil _ _

/-- The strings of the first of two lists are closed. -/
theorem Layout.after_first {s : Slices} {p : Pieces} {first second : Text}
    (h : Layout s p (some first) (some second)) :
    Quoting.outside.after first = .outside := by
  refine h.list.after_of_ne fun hnil => h.more.ne_nil ?_
  simp only [Slices.afterList, Slices.afterBlock, List.append_eq_nil_iff] at hnil
  exact hnil.2.2.2.1

/-- No tag is lost, gained or changed when a marker has two tag lists. Its
tags are those of the first list and then those of the second, and so are
the problems with them, whatever the lists hold; one that is absent or blank
has none. -/
theorem tags_of_both_lists {content : Text} {p : Pieces} {s : Slices}
    {first second : Option Text} (htrim : content.trim = s.whole)
    (h : Layout s p first second) :
    pieces? content = some p
      ∧ decodeTags p.tags = bothTags (decodeTags first) (decodeTags second) := by
  refine ⟨pieces?_of_layout htrim h, ?_⟩
  rw [h.tags]
  cases first with
  | none => cases second <;> rfl
  | some first =>
      cases second with
      | none => simp [decodeTags, joinInsides, bothTags]
      | some second => exact decodeTags_joinInsides h.after_first

/-- A list with a comma and a bracket in a string, an empty piece and a space,
and behind the block another one that is never closed. -/
theorem tags_of_both_lists_around_block :
    let first := Text.ofString "a, \"b,]\", , x y"
    let second := Text.ofString "\"c\", \"d"
    let content := Text.ofString
      "@!k 1 tags=[a, \"b,]\", , x y] \x7b\x7d\ttags = [\"c\", \"d "
    let s : Slices := ⟨"@!k", " ", "1", " ", "tags=[" ++ (first ++ "]"), " ",
      "\x7b\x7d", "\t", "tags = [" ++ second, []⟩
    let p : Pieces := ⟨.inline, "k", some "1", some "\x7b\x7d",
      some (first ++ "," ++ second)⟩
    content.trim = s.whole ∧ Layout s p (some first) (some second)
      ∧ pieces? content = some p
      ∧ (decodeTags p.tags).1 = [Text.ofString "a", "b,]", "c"]
      ∧ (decodeTags p.tags).2.map TagProblem.message
        = [TagProblem.emptyPiece, .needsQuotes "x y", .badString "\"d"].map
          TagProblem.message := by
  intro first second content s p
  have htrim : content.trim = s.whole := by decide
  have hnever : ¬ AtList ("1" ++ s.afterValue) := fun h => nomatch h.head?
  have hblock : Matched [] :=
    ⟨rfl, rfl, fun u hu => by rw [List.prefix_nil.1 hu]; decide⟩
  have hlayout : Layout s p (some first) (some second) :=
    { notEnd := by decide
      head := .inline (by decide) (by decide) (by decide)
      endsKey := by decide
      beforeValue := ⟨by decide, by decide⟩
      value := .word (by decide) (by decide) (by decide) hnever (by decide)
      beforeList := ⟨by decide, by decide⟩
      list := .closed ⟨[], [], rfl, rfl, rfl⟩ (by decide) (by decide)
      beforeBlock := ⟨by decide, by decide⟩
      block := .balanced hblock
      beforeMore := ⟨by decide, by decide⟩
      more := .unclosed ⟨" ", " ", by decide, by decide, rfl⟩ (by decide)
      tags := rfl }
  obtain ⟨hpieces, htags⟩ := tags_of_both_lists htrim hlayout
  rw [htags]
  exact ⟨htrim, hlayout, hpieces, by decide +kernel, by decide +kernel⟩

end Marginalia.Marker
