/-
What ends a line. A text can be written as lines without CR and LF, each with
LF, CR LF or CR behind it and the last one, unless it is empty, perhaps with
nothing. Where a lone CR never stands in front of LF there is just one such
way, and its lines are those of the text (`endedLines_iff`). So the lines
of a text do not depend on the terminators that it is written with, and
neither does its scan.
-/
import Marginalia.Scan
import Marginalia.Proofs.Text.Lines

namespace Marginalia

namespace Text

-- ========================================================== ended lines

/-- What can end a line. -/
def terminators : List Text :=
  [[.scalar '\n'], [.scalar '\r', .scalar '\n'], [.scalar '\r']]

/-- A line with what stands behind it. -/
structure EndedLine where
  line : Text
  ending : Text
  deriving DecidableEq, Repr

/-- The text that lines with their endings make up. -/
def ofEndedLines (parts : List EndedLine) : Text :=
  parts.flatMap fun p => p.line ++ p.ending

/-- The lines hold no CR and LF, each is ended, but for the last one if it is
not empty, and no CR that ends a line is half of a CR LF. -/
structure WellEnded (parts : List EndedLine) : Prop where
  plain : ∀ p ∈ parts, .scalar '\n' ∉ p.line ∧ .scalar '\r' ∉ p.line
  ended : ∀ p ∈ parts.dropLast, p.ending ∈ terminators
  last : ∀ p ∈ parts.getLast?,
    p.ending ∈ terminators ∨ p.ending = [] ∧ p.line ≠ []
  lone : ∀ before p behind, parts = before ++ p :: behind →
    p.ending = [.scalar '\r'] →
      (ofEndedLines behind).head? ≠ some (.scalar '\n')

theorem wellEnded_nil : WellEnded [] where
  plain := List.forall_mem_nil _
  ended := List.forall_mem_nil _
  last := fun p hp => by cases hp
  lone := fun before p behind h => by simp at h

theorem wellEnded_cons {p : EndedLine} {parts : List EndedLine} :
    WellEnded (p :: parts)
      ↔ (.scalar '\n' ∉ p.line ∧ .scalar '\r' ∉ p.line)
        ∧ (p.ending ∈ terminators
          ∨ parts = [] ∧ p.ending = [] ∧ p.line ≠ [])
        ∧ (p.ending = [.scalar '\r'] →
          (ofEndedLines parts).head? ≠ some (.scalar '\n'))
        ∧ WellEnded parts := by
  constructor
  · intro h
    obtain ⟨hfirst, hrest⟩ := List.forall_mem_cons.1 h.plain
    refine ⟨hfirst, ?_, h.lone [] p parts rfl, hrest, ?_, ?_, ?_⟩
    · cases parts with
      | nil => exact (h.last p rfl).imp id fun hlast => ⟨rfl, hlast⟩
      | cons q parts => exact .inl (h.ended p (List.mem_cons_self ..))
    · intro q hq
      cases parts with
      | nil => cases hq
      | cons q' parts => exact h.ended q (List.mem_cons_of_mem _ hq)
    · intro q hq
      cases parts with
      | nil => cases hq
      | cons q' parts => exact h.last q (by rwa [List.getLast?_cons_cons])
    · intro before q behind hparts
      exact h.lone (p :: before) q behind (by rw [hparts]; rfl)
  · rintro ⟨hplain, hended, hlone, hrest⟩
    refine ⟨List.forall_mem_cons.2 ⟨hplain, hrest.plain⟩, ?_, ?_, ?_⟩
    · intro q hq
      cases parts with
      | nil => cases hq
      | cons q' parts =>
          rcases List.mem_cons.1 hq with rfl | hq
          · exact hended.resolve_right fun h => by cases h.1
          · exact hrest.ended q hq
    · intro q hq
      cases parts with
      | nil =>
          obtain rfl := Option.some.inj hq
          exact hended.imp id And.right
      | cons q' parts =>
          rw [List.getLast?_cons_cons] at hq
          exact hrest.last q hq
    · intro before q behind hparts
      cases before with
      | nil =>
          injection hparts with hq hbehind
          rw [← hq, ← hbehind]
          exact hlone
      | cons q' before =>
          injection hparts with _ hparts
          exact hrest.lone before q behind hparts

-- =============================================================== lines

/-- A terminator ends the first line. -/
theorem lines_terminator {e rest : Text} (he : e ∈ terminators)
    (hlone : e = [.scalar '\r'] → rest.head? ≠ some (.scalar '\n')) :
    lines (e ++ rest) = [] :: lines rest := by
  simp only [terminators, List.mem_cons, List.not_mem_nil, or_false] at he
  rcases he with rfl | rfl | rfl
  · show lines (.scalar '\n' :: rest) = _
    rw [lines]
  · show lines (.scalar '\r' :: .scalar '\n' :: rest) = _
    rw [lines]
  · show lines (.scalar '\r' :: rest) = _
    cases rest with
    | nil => rfl
    | cons c rest =>
        apply lines_return
        rintro rfl
        exact hlone rfl rfl

theorem lines_append_terminator {l e rest : Text}
    (hl : .scalar '\n' ∉ l ∧ .scalar '\r' ∉ l) (he : e ∈ terminators)
    (hlone : e = [.scalar '\r'] → rest.head? ≠ some (.scalar '\n')) :
    lines (l ++ e ++ rest) = l :: lines rest := by
  rw [List.append_assoc]
  induction l with
  | nil => exact lines_terminator he hlone
  | cons c l ih =>
      refine lines_cons ?_ ?_ (ih ⟨fun h => ?_, fun h => ?_⟩)
      · exact fun h => hl.1 (h ▸ List.mem_cons_self ..)
      · exact fun h => hl.2 (h ▸ List.mem_cons_self ..)
      · exact hl.1 (List.mem_cons_of_mem _ h)
      · exact hl.2 (List.mem_cons_of_mem _ h)

/-- The lines of a text that is written as ended lines are these lines. -/
theorem WellEnded.lines_eq {parts : List EndedLine} (h : WellEnded parts) :
    lines (ofEndedLines parts) = parts.map (·.line) := by
  induction parts with
  | nil => rfl
  | cons p parts ih =>
      obtain ⟨hplain, hended, hlone, hrest⟩ := wellEnded_cons.1 h
      show lines (p.line ++ p.ending ++ ofEndedLines parts) = _
      rcases hended with hended | ⟨rfl, hending, hne⟩
      · rw [lines_append_terminator hplain hended hlone, ih hrest]
        rfl
      · rw [hending, show ofEndedLines [] = [] from rfl, List.append_nil,
          List.append_nil, lines_plain hplain hne]
        rfl

/-- A terminator with no line in front of it can be put before ended
lines. -/
theorem WellEnded.cons_terminator {parts : List EndedLine}
    (h : WellEnded parts) {e : Text} (he : e ∈ terminators)
    (hlone : e = [.scalar '\r'] →
      (ofEndedLines parts).head? ≠ some (.scalar '\n')) :
    WellEnded (⟨[], e⟩ :: parts) :=
  wellEnded_cons.2
    ⟨⟨List.not_mem_nil, List.not_mem_nil⟩, .inl he, hlone, h⟩

/-- Every text can be written as ended lines. -/
theorem exists_wellEnded (t : Text) :
    ∃ parts, WellEnded parts ∧ ofEndedLines parts = t := by
  fun_induction lines t with
  | case1 => exact ⟨[], wellEnded_nil, rfl⟩
  | case2 t ih =>
      obtain ⟨parts, h, rfl⟩ := ih
      refine ⟨_, h.cons_terminator (.tail _ (.head _)) ?_, rfl⟩
      intro h
      cases h
  | case3 t hnot ih =>
      obtain ⟨parts, h, rfl⟩ := ih
      refine ⟨_, h.cons_terminator (.tail _ (.tail _ (.head _))) ?_, rfl⟩
      intro _ hhead
      obtain ⟨rest, hrest⟩ := List.head?_eq_some_iff.1 hhead
      exact hnot rest hrest
  | case4 t ih =>
      obtain ⟨parts, h, rfl⟩ := ih
      refine ⟨_, h.cons_terminator (.head _) ?_, rfl⟩
      intro h
      cases h
  | case5 c t _ hcr hlf hl ih =>
      -- the text ends behind this code point
      have ht : t = [] :=
        Classical.not_not.1 fun hne => lines_ne_nil hne hl
      refine ⟨[⟨[c], []⟩],
        wellEnded_cons.2 ⟨⟨?_, ?_⟩, ?_, ?_, wellEnded_nil⟩, ?_⟩
      · exact fun h => hlf (List.mem_singleton.1 h).symm
      · exact fun h => hcr (List.mem_singleton.1 h).symm
      · exact .inr ⟨rfl, rfl, by simp⟩
      · intro h
        cases h
      · rw [ht]
        rfl
  | case6 c t _ hcr hlf l ls hl ih =>
      -- the code point joins the first line
      obtain ⟨parts, h, rfl⟩ := ih
      cases parts with
      | nil => cases hl
      | cons p parts =>
          obtain ⟨hplain, hended, hlone, hrest⟩ := wellEnded_cons.1 h
          refine ⟨⟨c :: p.line, p.ending⟩ :: parts,
            wellEnded_cons.2 ⟨⟨?_, ?_⟩, ?_, hlone, hrest⟩, rfl⟩
          · apply List.not_mem_cons_of_ne_of_not_mem _ hplain.1
            exact fun h => hlf h.symm
          · apply List.not_mem_cons_of_ne_of_not_mem _ hplain.2
            exact fun h => hcr h.symm
          · exact hended.imp id fun hlast => ⟨hlast.1, hlast.2.1, by simp⟩

/-- The lines of a text are those of the one way to write it as ended
lines. -/
theorem endedLines_iff {t : Text} {ls : List Text} :
    (∃ parts, WellEnded parts ∧ ofEndedLines parts = t
        ∧ parts.map (·.line) = ls) ↔ ls = lines t := by
  constructor
  · rintro ⟨parts, h, rfl, rfl⟩
    exact h.lines_eq.symm
  · rintro rfl
    obtain ⟨parts, h, rfl⟩ := exists_wellEnded t
    exact ⟨parts, h, rfl, h.lines_eq.symm⟩

end Text

namespace Scan

/-- The lines of a text are the one list of lines without CR and LF that it
consists of, each with LF, CR LF or CR behind it, the last one perhaps with
nothing if it is not empty, where no lone CR stands in front of LF. Texts that
differ only in what is behind their lines are scanned alike. -/
theorem lines_ended :
    (∀ (t : Text) (ls : List Text),
        (∃ parts, Text.WellEnded parts ∧ Text.ofEndedLines parts = t
          ∧ parts.map (·.line) = ls) ↔ ls = t.lines)
      ∧ ∀ first second : List Text.EndedLine, Text.WellEnded first →
          Text.WellEnded second → first.map (·.line) = second.map (·.line) →
          ∀ (style : Comment.Style) (report : Bool),
            ofText style report (Text.ofEndedLines first)
              = ofText style report (Text.ofEndedLines second) := by
  refine ⟨fun t ls => Text.endedLines_iff, ?_⟩
  intro first second hfirst hsecond hlines style report
  have hsame : Text.lines (Text.ofEndedLines first)
      = Text.lines (Text.ofEndedLines second) := by
    rw [hfirst.lines_eq, hsecond.lines_eq, hlines]
  unfold ofText Comment.Style.lines
  rw [hsame]

/-- Three lines, the first ended by CR and an empty one by CR LF; and the same
lines ended by LF, the last one by nothing. -/
theorem lines_ended_mixed :
    let first : List Text.EndedLine :=
      [⟨"# @!k", [.scalar '\r']⟩, ⟨[], [.scalar '\r', .scalar '\n']⟩,
        ⟨"x", [.scalar '\r']⟩]
    let second : List Text.EndedLine :=
      [⟨"# @!k", [.scalar '\n']⟩, ⟨[], [.scalar '\n']⟩, ⟨"x", []⟩]
    Text.WellEnded first ∧ Text.WellEnded second
      ∧ ofText (Catalog.styleFor (some "python") []) false
          (Text.ofString "# @!k\r\r\nx\r")
        = ofText (Catalog.styleFor (some "python") []) false
          (Text.ofString "# @!k\n\nx") := by
  intro first second
  have hfirst : Text.WellEnded first := by
    refine Text.wellEnded_cons.2 ⟨by decide, by decide, by decide, ?_⟩
    refine Text.wellEnded_cons.2 ⟨by decide, by decide, by decide, ?_⟩
    exact Text.wellEnded_cons.2
      ⟨by decide, by decide, by decide, Text.wellEnded_nil⟩
  have hsecond : Text.WellEnded second := by
    refine Text.wellEnded_cons.2 ⟨by decide, by decide, by decide, ?_⟩
    refine Text.wellEnded_cons.2 ⟨by decide, by decide, by decide, ?_⟩
    exact Text.wellEnded_cons.2
      ⟨by decide, by decide, by decide, Text.wellEnded_nil⟩
  exact ⟨hfirst, hsecond, lines_ended.2 first second hfirst hsecond rfl _ _⟩

end Scan

end Marginalia
