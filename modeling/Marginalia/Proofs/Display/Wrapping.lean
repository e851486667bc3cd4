/-
What becomes of a text on the console. Controls are taken out, tabs become
spaces, lines that are too wide are broken, and white space is dropped where
they are: so spaces and line ends are all that printing adds, and the rest of
what is printed comes in the order in which it stands in the text
(`ink_printed_sublist`). A text without controls and tabs that has room on a
line is printed as it stands (`printed_eq`), and a line of ASCII is never longer
than the width (`length_of_printed_le`).
-/
import Mathlib.Data.List.Basic
import Marginalia.Display.Layout
import Marginalia.Proofs.Console
import Marginalia.Proofs.Text.Pieces
import Marginalia.Proofs.Text.Trim

namespace Marginalia

-- ================================================================ ink

namespace Text

/-- A text without its spaces and line ends. -/
def ink (t : Text) : Text :=
  t.filter fun c => c != .scalar ' ' && c != .scalar '\n'

theorem ink_append (t u : Text) : ink (t ++ u) = ink t ++ ink u :=
  List.filter_append t u

theorem ink_sublist (t : Text) : (ink t).Sublist t := List.filter_sublist

theorem ink_ink (t : Text) : ink (ink t) = ink t := by
  unfold ink
  rw [List.filter_filter]
  simp

theorem ink_end (t : Text) : ink (t ++ [.scalar '\n']) = ink t := by
  rw [ink_append]
  exact List.append_nil _

theorem ink_spaces (n : Nat) : ink (Cells.spaces n) = [] := by
  refine List.filter_eq_nil_iff.2 fun c hc => ?_
  rw [List.eq_of_mem_replicate hc]
  decide

/-- Ink that comes from a text comes from what that has it from. -/
theorem ink_trans {t u v : Text} (h : (ink t).Sublist u)
    (h' : (ink u).Sublist v) : (ink t).Sublist v := by
  have hink : (ink (ink t)).Sublist (ink u) := h.filter _
  rw [ink_ink] at hink
  exact hink.trans h'

/-- When each part brings only its own ink, so do all of them. -/
theorem ink_flatMap_sublist {f : Text → Text}
    (h : ∀ t, (ink (f t)).Sublist t) (parts : List Text) :
    (ink (parts.flatMap f)).Sublist parts.flatten := by
  induction parts with
  | nil => exact List.Sublist.refl _
  | cons part parts ih =>
      rw [List.flatMap_cons, ink_append]
      exact (h part).append ih

/-- Of anything but spaces and line ends a text has as much as its ink. -/
theorem countP_ink {p : CodePoint → Bool} (hspace : p (.scalar ' ') = false)
    (hend : p (.scalar '\n') = false) (t : Text) :
    (ink t).countP p = t.countP p := by
  unfold ink
  rw [List.countP_filter]
  refine List.countP_congr fun c _ => ?_
  have hvisible : p c = true → c ≠ .scalar ' ' ∧ c ≠ .scalar '\n' := by
    intro hc
    constructor
    · rintro rfl
      rw [hspace] at hc
      cases hc
    · rintro rfl
      rw [hend] at hc
      cases hc
  simpa using hvisible

end Text

namespace Layout

theorem flatten_cutAt (start : Nat) (places : List Nat) (t : Text) :
    (cutAt start places t).flatten = t := by
  induction places generalizing start t with
  | nil => exact List.append_nil t
  | cons place rest ih =>
      rw [cutAt, List.flatten_cons, ih, List.take_append_drop]

theorem ink_expandTabs_sublist (column : Nat) (part t : Text) :
    (Text.ink (expandTabs column part t)).Sublist (part.reverse ++ t) := by
  induction t generalizing column part with
  | nil =>
      rw [expandTabs, List.append_nil]
      exact Text.ink_sublist _
  | cons c t ih =>
      rw [expandTabs]
      split
      · dsimp only
        rw [Text.ink_append, Text.ink_append, Text.ink_spaces, List.append_nil,
          List.reverse_cons, Text.ink_append]
        have hspace : Text.ink [.scalar ' '] = [] := by decide
        rw [hspace, List.append_nil]
        exact (Text.ink_sublist _).append ((ih _ []).cons c)
      · have hrest := ih column (c :: part)
        rwa [List.reverse_cons, List.append_assoc] at hrest

theorem ink_fit_sublist (total : Nat) (t : Text) :
    (Text.ink (Cells.fit total t)).Sublist t := by
  unfold Cells.fit
  dsimp only
  rw [Text.ink_append, Text.ink_spaces, List.append_nil]
  refine (Text.ink_sublist _).trans ?_
  split
  · exact List.Sublist.refl t
  · have hsplit := List.sublist_append_left (Cells.split total t).1
      (Cells.split total t).2
    rwa [Cells.split_append] at hsplit

theorem ink_place_sublist (width : Nat) (t : Text) :
    (Text.ink (place width .fold .loose (dropEnd width t))).Sublist t := by
  have hplace : place width .fold .loose (dropEnd width t)
      = if Cells.width (dropEnd width t) ≤ width then dropEnd width t
        else Cells.fit width (dropEnd width t) := rfl
  have hend : (dropEnd width t).Sublist t := List.take_sublist _ _
  rw [hplace]
  refine List.Sublist.trans ?_ hend
  split
  · exact Text.ink_sublist _
  · exact ink_fit_sublist width _

theorem ink_withEnds_wrapLine (width : Nat) (t : Text) :
    (Text.ink (withEnds (wrapLine width .fold .loose t))).Sublist t := by
  have hlines : ∀ line : Text,
      (Text.ink (place width .fold .loose (dropEnd width line)
        ++ [.scalar '\n'])).Sublist line := fun line => by
    rw [Text.ink_end]
    exact ink_place_sublist width line
  unfold withEnds wrapLine
  dsimp only
  rw [List.flatMap_map]
  refine Text.ink_trans (Text.ink_flatMap_sublist hlines _) ?_
  rw [flatten_cutAt]
  exact ink_expandTabs_sublist 0 [] t

/-- What is printed for a text is printed for its lines. -/
theorem printed_eq_flatMap (width : Nat) (t : Text) :
    printed width t = (Text.splitOn (.scalar '\n') (Cells.clean t)).flatMap
      fun l => withEnds (wrapLine width .fold .loose l) := by
  unfold printed wrap
  exact List.flatMap_assoc

/-- Printing adds spaces and line ends only. -/
theorem ink_printed_sublist (width : Nat) (t : Text) :
    (Text.ink (printed width t)).Sublist t := by
  rw [printed_eq_flatMap]
  exact ((Text.ink_flatMap_sublist (ink_withEnds_wrapLine width) _).trans
    (Text.flatten_splitOn_sublist _ _)).trans List.filter_sublist

/-- Of anything but spaces and line ends no more is printed than the text
has. -/
theorem count_printed_le (width : Nat) (t : Text) {x : CodePoint}
    (hspace : x ≠ .scalar ' ') (hend : x ≠ .scalar '\n') :
    (printed width t).count x ≤ t.count x := by
  have hink := Text.countP_ink (p := (· == x)) (by simpa using hspace.symm)
    (by simpa using hend.symm) (printed width t)
  unfold List.count
  rw [← hink]
  exact (ink_printed_sublist width t).countP_le

end Layout

-- ======================================================= narrow lines

namespace Cells

open Console (isAscii room)

theorem ofPoint_of_isAscii {c : CodePoint} (h : isAscii c = true) :
    ofPoint c = 1 := if_pos h

theorem ofPoint_le (c : CodePoint) : ofPoint c ≤ room [c] := by
  cases h : isAscii c with
  | true =>
      rw [ofPoint_of_isAscii h]
      exact Nat.le_add_right ..
  | false =>
      have hroom : room [c] = 2 := by simp [room, h]
      rw [hroom]
      unfold ofPoint
      dsimp only
      repeat' split
      all_goals omega

theorem room_cons (c : CodePoint) (t : Text) :
    room (c :: t) = room [c] + room t := Console.room_append [c] t

theorem length_le_room (t : Text) : t.length ≤ room t := Nat.le_add_right ..

theorem widthAfter_le (last : Option CodePoint) (t : Text) :
    widthAfter last t ≤ room t := by
  fun_induction widthAfter last t with
  | case1 => exact Nat.zero_le _
  | case2 => exact Nat.zero_le _
  | case3 last c t ih =>
      rw [room_cons, room_cons c]
      omega
  | case4 t hne narrow ih =>
      have hwide : room [selector] = 2 := by decide
      rw [room_cons, hwide]
      split <;> omega
  | case5 t hne ih =>
      rw [room_cons]
      omega
  | case6 last c t hne hne' n ih =>
      have hpoint := ofPoint_le c
      rw [room_cons]
      omega

/-- No text takes more cells than it may. -/
theorem width_le (t : Text) : width t ≤ room t := widthAfter_le none t

/-- A text of ASCII takes a cell for each character. -/
theorem width_of_isAscii {t : Text} (h : ∀ c ∈ t, isAscii c = true) :
    width t = t.length := by
  have hafter : ∀ last, widthAfter last t = t.length := by
    induction t with
    | nil => exact fun _ => rfl
    | cons c t ih =>
        intro last
        obtain ⟨hc, ht⟩ := List.forall_mem_cons.1 h
        have hjoiner : c ≠ joiner := by
          rintro rfl
          exact absurd hc (by decide)
        have hselector : c ≠ selector := by
          rintro rfl
          exact absurd hc (by decide)
        rw [widthAfter.eq_def]
        dsimp only
        rw [if_neg hjoiner, if_neg hselector, ofPoint_of_isAscii hc, ih ht,
          List.length_cons, Nat.add_comm]
  exact hafter none

theorem split_of_isAscii {t : Text} (h : ∀ c ∈ t, isAscii c = true)
    (total : Nat) : split total t = (t.take total, t.drop total) := by
  induction t generalizing total with
  | nil => simp [split]
  | cons c t ih =>
      obtain ⟨hc, ht⟩ := List.forall_mem_cons.1 h
      rw [split, ofPoint_of_isAscii hc]
      cases total with
      | zero => rfl
      | succ total =>
          rw [if_pos (Nat.succ_le_succ (Nat.zero_le _)), Nat.add_sub_cancel,
            ih ht]
          rfl

theorem mem_fit {total : Nat} {t : Text} {c : CodePoint} (h : c ∈ fit total t) :
    c ∈ t ∨ c = .scalar ' ' := by
  unfold fit at h
  dsimp only at h
  rcases List.mem_append.1 h with h | h
  · split at h
    · exact .inl h
    · have hsplit := List.mem_append_left (split total t).2 h
      rw [split_append] at hsplit
      exact .inl hsplit
  · exact .inr (List.eq_of_mem_replicate h)

/-- A text of ASCII is cut down or filled up to its width. -/
theorem length_fit_of_isAscii {t : Text} (h : ∀ c ∈ t, isAscii c = true)
    (total : Nat) : (fit total t).length = total := by
  have hkept : ∀ kept : Text, kept <+: t → kept.length ≤ total →
      (kept ++ spaces (total - width kept)).length = total := by
    intro kept hhead hlength
    rw [width_of_isAscii fun c hc => h c (hhead.subset hc),
      List.length_append, spaces, List.length_replicate]
    omega
  unfold fit
  dsimp only
  rw [width_of_isAscii h]
  split
  · next hle => exact hkept t (List.prefix_refl t) hle
  · rw [split_of_isAscii h]
    exact hkept _ (List.take_prefix _ _) (List.length_take_le _ _)

end Cells

namespace Layout

open Console (isAscii isControl room)

theorem expandTabs_eq {t : Text} (h : .scalar '\t' ∉ t) (column : Nat)
    (part : Text) : expandTabs column part t = part.reverse ++ t := by
  induction t generalizing part with
  | nil => exact (List.append_nil _).symm
  | cons c t ih =>
      have hne : c ≠ .scalar '\t' := fun hc => h (hc ▸ List.mem_cons_self ..)
      have hrest : .scalar '\t' ∉ t := fun hc => h (List.mem_cons_of_mem c hc)
      rw [expandTabs, if_neg hne, ih hrest, List.reverse_cons,
        List.append_assoc]
      rfl

/-- The words of a text are parts of it. -/
theorem room_words_le (fuel : Nat) (t : Text) :
    room (words fuel t).flatten ≤ room t := by
  induction fuel generalizing t with
  | zero => exact Nat.zero_le _
  | succ fuel ih =>
      have hcut : ∀ (p : CodePoint → Bool) (u : Text),
          room u = room (u.takeWhile p)
            + room (u.drop (u.takeWhile p).length) := fun p u => by
        have happend :=
          List.prefix_iff_eq_append.1 (List.takeWhile_prefix p (l := u))
        rw [← Console.room_append, happend]
      unfold words
      extract_lets before t₁ word t₂ after
      have hbefore : room t = room before + room t₁ := hcut _ t
      have hword : room t₁ = room word + room t₂ := hcut _ t₁
      have hafter : room t₂ = room after + room (t₂.drop after.length) :=
        hcut _ t₂
      have hrest := ih (t₂.drop after.length)
      split
      · exact Nat.zero_le _
      · simp only [List.flatten_cons, Console.room_append]
        omega

/-- Words that fit into a line together are not broken. -/
theorem breaks_eq_nil {width column : Nat} {ws : List Text}
    (h : column + room ws.flatten ≤ width) (overflow : Overflow)
    (start : Nat) : breaks width overflow start column ws = [] := by
  induction ws generalizing start column with
  | nil => rfl
  | cons word rest ih =>
      rw [List.flatten_cons, Console.room_append] at h
      have hword := Cells.width_le word
      have htrimmed := Cells.width_le word.trimRight
      obtain ⟨blank, hblank⟩ := Text.trimRight_prefix word
      have hroom : room word = room word.trimRight + room blank := by
        rw [← Console.room_append, hblank]
      unfold breaks
      dsimp only
      rw [if_pos (by omega)]
      exact ih (by omega) _

/-- A line that has room is left as it is. -/
theorem wrapLine_eq {width : Nat} {t : Text} (htab : .scalar '\t' ∉ t)
    (h : room t ≤ width) : wrapLine width .fold .loose t = [t] := by
  have hwords := room_words_le t.length t
  have hwidth := Cells.width_le t
  have hlength := Cells.length_le_room t
  have hend : dropEnd width t = t := by
    have hroom : t.length - width = 0 := by omega
    unfold dropEnd
    dsimp only
    rw [hroom, Nat.min_zero]
    exact List.take_length
  have hplace : place width .fold .loose t = t := if_pos (by omega)
  unfold wrapLine
  rw [expandTabs_eq htab, List.reverse_nil, List.nil_append]
  dsimp only
  rw [breaks_eq_nil (by omega)]
  exact congrArg ([·]) ((congrArg _ hend).trans hplace)

theorem withEnds_splitOn (t : Text) :
    withEnds (Text.splitOn (.scalar '\n') t) = t ++ [.scalar '\n'] := by
  induction t with
  | nil => rfl
  | cons c t ih =>
      unfold Text.splitOn
      split
      · next hc =>
        rw [hc]
        exact congrArg (_ :: ·) ih
      · split
        · next heq =>
          rw [heq] at ih
          cases t <;> cases ih
        · next heq =>
          rw [heq] at ih
          exact congrArg (c :: ·) ih

/-- A text that has room is printed as it stands. -/
theorem printed_eq {width : Nat} {t : Text}
    (hplain : ∀ c ∈ t, isControl c = false ∧ c ≠ .scalar '\t')
    (h : room t ≤ width) : printed width t = t ++ [.scalar '\n'] := by
  have hclean : Cells.clean t = t :=
    List.filter_eq_self.2 fun c hc => by rw [(hplain c hc).1]; rfl
  have hlines : ∀ l ∈ Text.splitOn (.scalar '\n') t,
      wrapLine width .fold .loose l = [l] := by
    intro l hl
    have hsub : l.Sublist t := (List.sublist_flatten_of_mem hl).trans
      (Text.flatten_splitOn_sublist _ t)
    refine wrapLine_eq (fun hmem => ?_) ?_
    · exact (hplain _ (hsub.subset hmem)).2 rfl
    · have hlength := hsub.length_le
      have hwide := hsub.countP_le (p := fun c => !isAscii c)
      unfold room at h ⊢
      omega
  unfold printed wrap
  rw [hclean, List.flatMap_congr hlines]
  exact (congrArg withEnds (List.flatMap_singleton' _)).trans
    (withEnds_splitOn t)

-- ======================================================== lines of ASCII

/-- The lines of what is printed with their ends. -/
theorem splitOn_withEnds {lines : List Text}
    (h : ∀ l ∈ lines, .scalar '\n' ∉ l) :
    Text.splitOn (.scalar '\n') (withEnds lines) = lines ++ [[]] := by
  induction lines with
  | nil => rfl
  | cons l lines ih =>
      obtain ⟨hl, hlines⟩ := List.forall_mem_cons.1 h
      show Text.splitOn _ (l ++ [.scalar '\n'] ++ withEnds lines) = _
      rw [List.append_assoc, List.singleton_append,
        Text.splitOn_append_cons hl, ih hlines]
      rfl

theorem place_of_isAscii {t : Text} (h : ∀ c ∈ t, isAscii c = true)
    (width : Nat) :
    (∀ c ∈ place width .fold .loose t, isAscii c = true)
      ∧ (place width .fold .loose t).length ≤ width := by
  have hplace : place width .fold .loose t
      = if Cells.width t ≤ width then t else Cells.fit width t := rfl
  rw [hplace]
  split
  · next hwidth =>
    rw [Cells.width_of_isAscii h] at hwidth
    exact ⟨h, hwidth⟩
  · refine ⟨fun c hc => ?_, Nat.le_of_eq (Cells.length_fit_of_isAscii h width)⟩
    rcases Cells.mem_fit hc with hc | rfl
    · exact h c hc
    · decide

theorem wrapLine_of_isAscii {t : Text} (h : ∀ c ∈ t, isAscii c = true)
    (width : Nat) : ∀ l ∈ wrapLine width .fold .loose t,
      (∀ c ∈ l, isAscii c = true) ∧ l.length ≤ width := by
  have htab : .scalar '\t' ∉ t := fun hmem =>
    (Console.isControl_of_isAscii (h _ hmem)).2.1 rfl
  unfold wrapLine
  rw [expandTabs_eq htab, List.reverse_nil, List.nil_append]
  dsimp only
  intro l hl
  obtain ⟨piece, hpiece, rfl⟩ := List.mem_map.1 hl
  refine place_of_isAscii (fun c hc => h c ?_) width
  have hflat := List.mem_flatten.2 ⟨piece, hpiece, List.mem_of_mem_take hc⟩
  rwa [flatten_cutAt] at hflat

/-- No line of ASCII goes over the width. -/
theorem length_of_printed_le {width : Nat} {t : Text}
    (h : ∀ c ∈ t, isAscii c = true) :
    ∀ line ∈ Text.splitOn (.scalar '\n') (printed width t),
      line.length ≤ width := by
  have hlines : ∀ l ∈ wrap width .fold .loose (Cells.clean t),
      (∀ c ∈ l, isAscii c = true) ∧ l.length ≤ width := by
    intro l hl
    obtain ⟨piece, hpiece, hl⟩ := List.mem_flatMap.1 hl
    have hsub := (List.sublist_flatten_of_mem hpiece).trans
      (Text.flatten_splitOn_sublist _ (Cells.clean t))
    refine wrapLine_of_isAscii (fun c hc => h c ?_) width l hl
    exact List.mem_of_mem_filter (hsub.subset hc)
  intro line hline
  unfold printed at hline
  rw [splitOn_withEnds fun l hl hmem =>
    (Console.isControl_of_isAscii ((hlines l hl).1 _ hmem)).2.2 rfl] at hline
  rcases List.mem_append.1 hline with hline | hline
  · exact (hlines line hline).2
  · rw [List.mem_singleton.1 hline]
    exact Nat.zero_le _

end Layout

end Marginalia
