/-
An empty line put in between two lines of a text. It may part a marker from
its target, or stand in the middle of a comment or of a block: nothing is
bound to it, it opens and closes nothing, and the lines behind it are read
in the state that they were read in before. So all it does is to move them
down by one (`ofText_emptyLine`).

That an empty line closes no comment is where the delimiters of the style
count: an empty closer would be found on it.
-/
import Marginalia.Proofs.Comment.Lexer
import Marginalia.Proofs.Scan.Cut

namespace Marginalia.Scan

open Comment (Block Line Style)

-- ============================================================== numbers

/-- The numbers of lines when one more line stands behind line `n`. -/
def movedDown (n line : LineNumber) : LineNumber :=
  if line ≤ n then line else line + 1

theorem movedDown_of_le {n line : LineNumber} (h : line ≤ n) :
    movedDown n line = line := if_pos h

theorem movedDown_of_lt {n line : LineNumber} (h : n < line) :
    movedDown n line = line + 1 := if_neg (Int.not_le.2 h)

theorem ordered_movedDown (n : LineNumber) :
    (Recast.renumber (movedDown n)).Ordered := by
  intro line line'
  show movedDown n line ≤ movedDown n line' ↔ line ≤ line'
  unfold movedDown
  grind

-- ============================================================ idle lines

/-- There is no marker on an idle line, and nothing is reported of it. -/
theorem readLine_of_isIdle {l : Line} (h : l.isIdle = true)
    (report : Bool) : readLine report l = (.line l, []) := by
  have hcontent : l.content = none ∨ l.content = some [] := by
    unfold Line.isIdle at h
    cases hc : l.content with
    | none => exact Or.inl rfl
    | some content =>
        rw [hc] at h
        have hempty := (Bool.and_eq_true_iff.1 h).2
        exact Or.inr (congrArg some (List.isEmpty_iff.1 hempty))
  unfold readLine
  rcases hcontent with hc | hc
  · rw [hc]
  · rw [hc]
    rfl

/-- An idle line among others makes no difference to what is bound. -/
theorem bind_insert_idle {l : Line} (h : l.isIdle = true)
    (first rest : List Line) (lastLine : LineNumber) :
    Binding.bind ((first ++ l :: rest).map eventOf) lastLine
      = Binding.bind ((first ++ rest).map eventOf) lastLine := by
  have hevent : eventOf l = .line l :=
    congrArg Prod.fst (readLine_of_isIdle h false)
  rw [List.map_append, List.map_cons, hevent, Binding.bind_idle h,
    List.map_append]

/-- An idle line among others makes no difference to what is reported of the
lines by themselves. -/
theorem reports_insert_idle {l : Line} (h : l.isIdle = true) (report : Bool)
    (first rest : List Line) :
    reports report (first ++ l :: rest) = reports report (first ++ rest) := by
  rw [reports_append, reports_append]
  show _ ++ ((readLine report l).2 ++ reports report rest) = _
  rw [readLine_of_isIdle h]
  rfl

-- ========================================================= an empty line

/-- An empty line is idle, and what was open before it is open after it. -/
theorem readLine_empty {s : Style} (hs : s.Delimited) {block : Option Block}
    (h : ∀ b, block = some b → (b.opener, b.closer) ∈ s.blockMarks)
    (number : LineNumber) :
    (s.readLine block []).block = block
      ∧ (s.lineAt number block []).isIdle = true := by
  cases block with
  | none => exact ⟨rfl, rfl⟩
  | some b =>
      obtain ⟨opener, closer⟩ := b
      have hcloser : closer ≠ [] := (hs.blockMarks _ (h _ rfl)).2
      obtain ⟨c, closer, rfl⟩ := List.exists_cons_of_ne_nil hcloser
      have hcontent : Comment.blockContent opener [] = [] := by
        unfold Comment.blockContent
        cases opener.endsWith "*" <;> rfl
      refine ⟨rfl, ?_⟩
      show (Comment.blockContent opener []).isEmpty = true
      rw [hcontent]
      rfl

section Text

variable {s : Style} {first rest : Text}

/-- An empty line behind a text that ends with a line. -/
theorem text_lines_emptyLine (h : first.EndsLine) :
    (first ++ "\n" ++ rest).lines = first.lines ++ [] :: rest.lines := by
  rw [List.append_assoc, h.lines_append]
  exact congrArg _ (Text.lines_append_newline List.not_mem_nil
    List.not_mem_nil rest)

/-- The lines of a text with an empty line put in: those of the text, of
which some have moved down, and an idle line. -/
theorem lines_emptyLine (hs : s.Delimited) (h : first.EndsLine)
    (rest : Text) :
    let f := movedDown first.lines.length
    ∃ (l : Line) (before after : List Line), l.isIdle = true
      ∧ s.lines (first ++ rest) = before ++ after
      ∧ s.lines (first ++ "\n" ++ rest)
        = before.map (.renumber f) ++ l :: after.map (.renumber f) := by
  intro f
  have hempty := readLine_empty hs fun b
      (hb : s.blockAfter none first.lines = some b) =>
    Style.mem_blockMarks_of_blockAfter hs hb
  -- the lines before the cut keep their numbers, those behind it do not
  have hbefore : (s.lines first).map (.renumber f) = s.lines first := by
    have hle : ∀ l ∈ s.lines first, f l.number = id l.number := by
      intro l hl
      have hlast := (Style.number_of_mem_lines hl).2
      rw [s.length_lines] at hlast
      exact movedDown_of_le hlast
    exact (Line.map_renumber_congr hle).trans (List.map_id _)
  have hafter : ∀ l ∈ s.readLines (1 + first.lines.length)
      (s.blockAfter none first.lines) rest.lines,
      f l.number = l.number + 1 := by
    intro l hl
    have hfirst := (Style.number_of_mem_readLines hl).1
    refine movedDown_of_lt ?_
    grind
  refine ⟨_, _, _, (hempty (1 + first.lines.length)).2,
    lines_append h s rest, ?_⟩
  rw [hbefore, Line.map_renumber_congr (g := (· + 1)) hafter]
  unfold Style.lines
  rw [text_lines_emptyLine h, Style.readLines_append, Style.readLines_cons,
    (hempty 1).1, Style.readLines_add]

/-- The end of a text moves down with the line before it. -/
theorem lastLine_emptyLine (h : first.EndsLine) (hrest : rest ≠ []) :
    max ((s.lines (first ++ "\n" ++ rest)).length : Int) 1
      = movedDown first.lines.length
        (max (s.lines (first ++ rest)).length 1) := by
  have hlength : (s.lines (first ++ rest)).length
      = first.lines.length + rest.lines.length := by
    rw [s.length_lines, h.lines_append, List.length_append]
  have hlength' : (s.lines (first ++ "\n" ++ rest)).length
      = first.lines.length + rest.lines.length + 1 := by
    rw [s.length_lines, text_lines_emptyLine h, List.length_append,
      List.length_cons, Nat.add_assoc]
  have hmax : ∀ n m : Nat, 0 < m →
      (n : Int) < max ((n + m : Nat) : Int) 1
        ∧ max ((n + m + 1 : Nat) : Int) 1 = max ((n + m : Nat) : Int) 1 + 1 := by
    omega
  obtain ⟨hlt, hnext⟩ := hmax first.lines.length rest.lines.length
    (List.length_pos_iff.2 (Text.lines_ne_nil hrest))
  rw [hlength, hlength', movedDown_of_lt hlt, hnext]

/-- An empty line put into a text behind any of its lines but the last moves
the lines behind it down, and makes no other difference to what is found in
the text: not in the middle of a comment or of a block, nor between a
marker and its target. -/
theorem ofText_emptyLine (hs : s.Delimited) (h : first.endsWith "\n" = true)
    (hrest : rest ≠ []) (report : Bool) :
    let f := movedDown first.lines.length
    ofText s report (first ++ "\n" ++ rest)
        = (ofText s report (first ++ rest)).renumber f
      ∧ ∀ a ∈ (ofText s report (first ++ rest)).annotations,
          a.Moved f ((Recast.renumber f).annotationOf a) := by
  intro f
  have hline : first.EndsLine := Or.inr h
  have hordered : (Recast.renumber f).Ordered := ordered_movedDown _
  obtain ⟨l, before, after, hidle, hlines, hlines'⟩ :=
    lines_emptyLine hs hline rest
  have hbind := bind_insert_idle hidle (before.map (.renumber f))
    (after.map (.renumber f)) (s.lines (first ++ "\n" ++ rest)).length
  rw [← List.map_append, ← hlines, map_eventOf_renumber,
    Binding.bind_recast _ _ (lastLine_emptyLine hline hrest),
    ← hlines'] at hbind
  have hreports := reports_insert_idle hidle report (before.map (.renumber f))
    (after.map (.renumber f))
  rw [← List.map_append, ← hlines, ← hlines'] at hreports
  refine ⟨congrArg₂ Scan.mk ?_ ?_, fun a _ =>
    Annotation.moved_renumber fun _ _ => movedDown_of_le ?_⟩
  · show (ofLines report _).annotations
      = ((ofLines report _).renumber f).annotations
    rw [annotations_ofLines, annotations_renumber hordered, hbind]
  · show (ofLines report _).diagnostics
      = ((ofLines report _).renumber f).diagnostics
    rw [diagnostics_ofLines, diagnostics_renumber hordered, hbind, hreports]
  · -- the first line stands before the cut
    have hne : first ≠ [] := by
      rintro rfl
      cases h
    exact Int.ofNat_le.2 (List.length_pos_iff.2 (Text.lines_ne_nil hne))

/-- The cut goes through an open comment, between a marker and its target:
the target moves from line 4 to line 5. -/
theorem ofText_emptyLine_in_comment :
    let s := Catalog.styleFor (some "c") []
    let first : Text := "// @!k\n/*\n"
    let rest : Text := "*/\nx;\n"
    s.Delimited ∧ first.endsWith "\n" = true ∧ rest ≠ []
      ∧ s.blockAfter none first.lines ≠ none
      ∧ (∃ a ∈ (ofText s false (first ++ rest)).annotations,
          a.scope = .declaration 4 "x;")
      ∧ ∃ a ∈ (ofText s false (first ++ "\n" ++ rest)).annotations,
          a.scope = .declaration 5 "x;" := by
  intro s first rest
  have hs : s.Delimited := ⟨by decide +kernel, by decide +kernel⟩
  have hline : first.endsWith "\n" = true := by decide +kernel
  have hrest : rest ≠ [] := by decide +kernel
  obtain ⟨hscan, -⟩ := ofText_emptyLine hs hline hrest false
  have hbind : ∃ a ∈ (Binding.bind ((s.lines (first ++ rest)).map eventOf)
      (s.lines (first ++ rest)).length).annotations,
      a.scope = .declaration 4 "x;" := by
    decide +kernel
  obtain ⟨a, ha, hscope⟩ := hbind
  have hmem : a ∈ (ofText s false (first ++ rest)).annotations :=
    (annotations_ofLines_perm false _).mem_iff.2 ha
  refine ⟨hs, hline, hrest, by decide +kernel, ⟨a, hmem, hscope⟩,
    (Recast.renumber (movedDown 2)).annotationOf a, ?_, ?_⟩
  · rw [hscan]
    exact List.mem_map_of_mem hmem
  · show (Recast.renumber (movedDown 2)).scopeOf a.scope = _
    rw [hscope]
    rfl

end Text

end Marginalia.Scan
