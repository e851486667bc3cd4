/-
Texts that are put together from two. The lines of the second text come
behind those of the first, so what the scan of the first one has settled
is in the scan of the whole, in the same order (`fixed_sublist`). It is not
known there what is still open: a comment, a block, a marker that waits.

Where nothing is open the scan of the whole is the scan of the first text
followed by that of the second, whose lines have moved (`ofText_append`).
All that the first text could still tell the second one is that there is
something before it, and only a marker of a whole file asks for that.
-/
import Marginalia.Proofs.Binding.Cut
import Marginalia.Proofs.Scan.DataModel
import Marginalia.Proofs.Scan.Order

namespace Marginalia.Scan

open Comment (Line Style)

-- =============================================================== lines

/-- The lines of a text that starts with whole lines of another. -/
theorem lines_append {first : Text} (h : first.EndsLine) (s : Style)
    (rest : Text) :
    s.lines (first ++ rest)
      = s.lines first
        ++ s.readLines (1 + first.lines.length)
          (s.blockAfter none first.lines) rest.lines := by
  unfold Style.lines
  rw [h.lines_append, Style.readLines_append]

-- =========================================================== open cuts

/-- What is reported of a line by itself is settled there. -/
theorem isFixed_of_mem_reports {report : Bool} {lines : List Line}
    {d : Diagnostic} (h : d ∈ reports report lines) : d.isFixed = true := by
  obtain ⟨l, -, hd⟩ := List.mem_flatMap.1 h
  obtain ⟨hunclosed, hdangling⟩ := kind_of_mem_readLine hd
  unfold Diagnostic.isFixed
  rw [bne_iff_ne.2 hunclosed, bne_iff_ne.2 hdangling]
  rfl

/-- What the scan of some lines has settled is settled in the same way when
more lines follow. -/
theorem fixed_sublist_ofLines (report : Bool) (first rest : List Line) :
    ((ofLines report first).annotations.filter (·.isFixed)).Sublist
        (ofLines report (first ++ rest)).annotations
      ∧ ((ofLines report first).diagnostics.filter (·.isFixed)).Sublist
        (ofLines report (first ++ rest)).diagnostics := by
  constructor
  · rw [annotations_ofLines, annotations_ofLines, List.map_append,
      totalPreorder_before.filter_mergeSort,
      Binding.filter_isFixed_annotations, Binding.bind_append]
    exact totalPreorder_before.mergeSort_sublist (List.sublist_append_left ..)
  · rw [diagnostics_ofLines, diagnostics_ofLines, List.map_append,
      totalPreorder_byLine.filter_mergeSort, List.filter_append,
      List.filter_eq_self.2 fun d hd => isFixed_of_mem_reports hd,
      Binding.filter_isFixed_diagnostics, Binding.bind_append, reports_append]
    exact totalPreorder_byLine.mergeSort_sublist
      ((List.sublist_append_left ..).append (List.sublist_append_left ..))

/-- What is settled in the scan of a text that ends with a line is never
revised by what follows the text: the annotations that have found their
target and the blocks that have been closed, and everything that is
reported but for open blocks and markers without a target. -/
theorem fixed_sublist (s : Style) (report : Bool) {first : Text}
    (h : first.EndsLine) (rest : Text) :
    ((ofText s report first).annotations.filter (·.isFixed)).Sublist
        (ofText s report (first ++ rest)).annotations
      ∧ ((ofText s report first).diagnostics.filter (·.isFixed)).Sublist
        (ofText s report (first ++ rest)).diagnostics := by
  unfold ofText
  rw [lines_append h]
  exact fixed_sublist_ofLines ..

/-- What follows closes a comment and a block that were open at the cut, and
leaves a marker that has found its target where it was. -/
theorem fixed_sublist_reopened :
    let s := Catalog.styleFor (some "c") []
    let first : Text := "// @!k\nx;\n// @!begin b\n/* open\n"
    first.EndsLine
      ∧ s.blockAfter none first.lines ≠ none
      ∧ ∃ a ∈ (ofText s false (first ++ "@!end b */\ny;")).annotations,
          a.key = "k" ∧ a.scope = .declaration 2 "x;" := by
  intro s first
  have hline : first.EndsLine := Or.inr (by decide +kernel)
  have hbind : ∃ a ∈ (Binding.bind ((s.lines first).map eventOf)
      (s.lines first).length).annotations,
      a.isFixed = true ∧ a.key = "k" ∧ a.scope = .declaration 2 "x;" := by
    decide +kernel
  obtain ⟨a, ha, hfixed, hkey, hscope⟩ := hbind
  have hmem := (annotations_ofLines_perm false (s.lines first)).mem_iff.2 ha
  have hsub := (fixed_sublist s false hline "@!end b */\ny;").1
  exact ⟨hline, by decide +kernel, a,
    hsub.subset (List.mem_filter.2 ⟨hmem, hfixed⟩), hkey, hscope⟩

-- ========================================================= parted orders

/-- Annotations of which some are anchored at lines up to a cut and the
others behind it are put in order apart. -/
theorem mergeSort_cut {n : LineNumber} {annotations annotations' :
    List Annotation} (h : ∀ a ∈ annotations, a.anchor ≤ n)
    (h' : ∀ a ∈ annotations', n < a.anchor) :
    (annotations ++ annotations').mergeSort before
      = annotations.mergeSort before ++ annotations'.mergeSort before := by
  have hparts : (([] ++ []) ++ (annotations ++ annotations')).mergeSort before
      = ([] ++ annotations).mergeSort before
        ++ ([] ++ annotations').mergeSort before := by
    refine totalPreorder_before.mergeSort_stretches
      (fun a => decide (a.anchor ≤ n)) ?_ ?_ ?_
    · intro a b ha hb
      grind [before]
    · intro a ha
      exact decide_eq_true (h a ha)
    · intro a ha
      exact decide_eq_false (Int.not_le.2 (h' a ha))
  exact hparts

/-- The same for diagnostics, of the lines by themselves and of the
binding. -/
theorem mergeSort_cut_diagnostics {n : LineNumber}
    {read read' bound bound' : List Diagnostic}
    (h : ∀ d ∈ read ++ bound, d.line ≤ n)
    (h' : ∀ d ∈ read' ++ bound', n < d.line) :
    ((read ++ read') ++ (bound ++ bound')).mergeSort byLine
      = (read ++ bound).mergeSort byLine
        ++ (read' ++ bound').mergeSort byLine := by
  refine totalPreorder_byLine.mergeSort_stretches
    (fun d => decide (d.line ≤ n)) ?_ ?_ ?_
  · intro a b ha hb
    grind [byLine]
  · intro d hd
    exact decide_eq_true (h d hd)
  · intro d hd
    exact decide_eq_false (Int.not_le.2 (h' d hd))

section Bounds

variable {s : Style} {report : Bool} {t : Text}

/-- Annotations are anchored at lines of the text. -/
theorem anchor_of_mem {a : Annotation}
    (ha : a ∈ (Binding.bind ((s.lines t).map eventOf)
      (s.lines t).length).annotations) :
    1 ≤ a.anchor ∧ a.anchor ≤ (s.lines t).length := by
  have hconforms := conforms_of_mem s false t
    ((annotations_ofLines_perm false (s.lines t)).mem_iff.2 ha)
  obtain ⟨hfirst, hle, hlast⟩ := hconforms.range
  obtain ⟨hscope, -, hend⟩ := hconforms.scope
  unfold Annotation.anchor
  cases hs : a.scope with
  | declaration line text =>
      rw [hs] at hscope hend
      exact ⟨hscope, hend⟩
  | file _ | region _ _ | trailing _ =>
      exact ⟨hfirst, Int.le_trans hle hlast⟩

/-- Diagnostics stand on lines of the text. -/
theorem line_of_mem {d : Diagnostic}
    (hd : d ∈ reports report (s.lines t)
      ++ (Binding.bind ((s.lines t).map eventOf)
        (s.lines t).length).diagnostics) :
    1 ≤ d.line ∧ d.line ≤ (s.lines t).length := by
  have hconforms := diagnostic_conforms s report t
    ((diagnostics_ofLines_perm report (s.lines t)).mem_iff.2 hd)
  obtain ⟨l, hl, hline, -⟩ := hconforms.marked
  rw [← hline]
  exact Style.number_of_mem_lines hl

end Bounds

-- ========================================================== closed cuts

/-- The numbers of lines that stand behind `n` others. -/
def movedBy (n line : LineNumber) : LineNumber := line + n

theorem ordered_movedBy (n : LineNumber) :
    (Recast.renumber (movedBy n)).Ordered :=
  fun _ _ => Int.add_le_add_iff_right n

theorem lt_movedBy {n line : LineNumber} (h : 1 ≤ line) :
    n < movedBy n line := by
  unfold movedBy
  grind

/-- Lines behind others that leave nothing open are bound by themselves. -/
theorem bind_append_closed {lines lines' : List Line} {n : LineNumber}
    (hn : n = lines.length)
    (hclosed : (Binding.steps .start (lines.map eventOf)).1.Closed)
    (hfile : ∀ a ∈ (Binding.bind (lines'.map eventOf)
      lines'.length).annotations, ∀ k, a.scope ≠ .file k) :
    Binding.bind
        ((lines ++ lines'.map (Line.renumber (movedBy n))).map eventOf)
        (lines ++ lines'.map (Line.renumber (movedBy n))).length
      = Binding.bind (lines.map eventOf) lines.length
        ++ (Binding.bind (lines'.map eventOf) lines'.length).recast
          (.renumber (movedBy n)) := by
  by_cases hne : lines' = []
  · -- an empty file would count as one line, a stretch of no lines does not
    subst hne
    rw [List.map_nil, List.append_nil]
    exact (Binding.Outcome.append_nothing _).symm
  have hlast : max
      ((lines ++ lines'.map (Line.renumber (movedBy n))).length : Int) 1
      = max (lines'.length : Int) 1 + n := by
    have hmax : ∀ k m : Nat, 0 < m →
        max ((k + m : Nat) : Int) 1 = max (m : Int) 1 + k := by
      omega
    rw [List.length_append, List.length_map, hn]
    exact hmax _ _ (List.length_pos_iff.2 hne)
  have hrecast := Binding.bind_recast (.renumber (movedBy n))
    (lines'.map eventOf) hlast
  rw [List.map_append, map_eventOf_renumber,
    Binding.bind_closed hclosed ?_ lines.length, hrecast]
  rw [hrecast]
  intro a ha k hk
  obtain ⟨b, hb, rfl⟩ := List.mem_map.1 ha
  have hk' : (Recast.renumber (movedBy n)).scopeOf b.scope = .file k := hk
  cases hs : b.scope with
  | file m => exact hfile b hb m hs
  | declaration _ _ | region _ _ | trailing _ =>
      rw [hs] at hk'
      cases hk'

section Closed

variable {s : Style} {report : Bool} {first rest : Text}

/-- Behind a text that leaves no comment open, the lines of a text are what
they are by themselves, with larger numbers. -/
theorem lines_append_closed (h : first.EndsLine)
    (hblock : s.blockAfter none first.lines = none) :
    s.lines (first ++ rest)
      = s.lines first
        ++ (s.lines rest).map (.renumber (movedBy first.lines.length)) := by
  rw [lines_append h, hblock, Style.readLines_add]
  rfl

/-- What the lines of a text that is put together are bound to. -/
theorem bind_lines_append (h : first.EndsLine)
    (hblock : s.blockAfter none first.lines = none)
    (hclosed :
      (Binding.steps .start ((s.lines first).map eventOf)).1.Closed)
    (hfile : ∀ a ∈ (ofText s report rest).annotations,
      ∀ n, a.scope ≠ .file n) :
    Binding.bind ((s.lines (first ++ rest)).map eventOf)
        (s.lines (first ++ rest)).length
      = Binding.bind ((s.lines first).map eventOf) (s.lines first).length
        ++ (Binding.bind ((s.lines rest).map eventOf)
          (s.lines rest).length).recast
            (.renumber (movedBy first.lines.length)) := by
  rw [lines_append_closed h hblock]
  have hlength := congrArg (Nat.cast (R := Int)) (s.length_lines first).symm
  refine bind_append_closed hlength hclosed fun a ha => hfile a ?_
  exact (annotations_ofLines_perm report (s.lines rest)).mem_iff.2 ha

/-- Where a text ends with a line and leaves no comment and no block open
and no marker waiting, what follows is scanned by itself, unless it has
markers of a whole file: the scan of the whole text is the scan of the
first part, followed by that of the second part with its lines moved. -/
theorem ofText_append (h : first.EndsLine)
    (hblock : s.blockAfter none first.lines = none)
    (hclosed :
      (Binding.steps .start ((s.lines first).map eventOf)).1.Closed)
    (hfile : ∀ a ∈ (ofText s report rest).annotations,
      ∀ n, a.scope ≠ .file n) :
    let f := movedBy first.lines.length
    (ofText s report (first ++ rest)).annotations
        = (ofText s report first).annotations
          ++ ((ofText s report rest).renumber f).annotations
      ∧ (ofText s report (first ++ rest)).diagnostics
        = (ofText s report first).diagnostics
          ++ ((ofText s report rest).renumber f).diagnostics
      ∧ ∀ a ∈ (ofText s report rest).annotations,
          a.Moved f ((Recast.renumber f).annotationOf a) := by
  intro f
  have hordered : (Recast.renumber f).Ordered := ordered_movedBy _
  have hbind := bind_lines_append h hblock hclosed hfile
  refine ⟨?_, ?_, fun a ha =>
    Annotation.moved_renumber fun n hn => absurd hn (hfile a ha n)⟩
  · show (ofLines report _).annotations = (ofLines report _).annotations
      ++ ((ofLines report _).renumber f).annotations
    rw [annotations_ofLines, hbind, Binding.Outcome.annotations_append,
      mergeSort_cut (n := first.lines.length), ← annotations_ofLines,
      ← annotations_renumber hordered]
    · intro a ha
      rw [← s.length_lines]
      exact (anchor_of_mem ha).2
    · intro a ha
      obtain ⟨b, hb, rfl⟩ := List.mem_map.1 ha
      rw [Recast.anchor_annotationOf]
      exact lt_movedBy (anchor_of_mem hb).1
  · show (ofLines report _).diagnostics = (ofLines report _).diagnostics
      ++ ((ofLines report _).renumber f).diagnostics
    rw [diagnostics_ofLines, hbind, lines_append_closed h hblock,
      Binding.Outcome.diagnostics_append, reports_append,
      mergeSort_cut_diagnostics (n := first.lines.length),
      ← diagnostics_ofLines, ← diagnostics_renumber hordered]
    · intro d hd
      rw [← s.length_lines]
      exact (line_of_mem hd).2
    · intro d hd
      rw [reports_renumber] at hd
      obtain ⟨e, he, rfl⟩ := List.mem_map.1 ((List.map_append ..).symm ▸ hd)
      exact lt_movedBy (line_of_mem he).1

/-- A block that is closed, and behind it a marker that applies to
nothing. -/
theorem ofText_append_trailing :
    let s := Catalog.styleFor (some "python") []
    let first : Text := "# @!begin a\nx\n# @!end a\n"
    let rest : Text := "y\n# @!k\n"
    first.EndsLine
      ∧ s.blockAfter none first.lines = none
      ∧ (Binding.steps .start ((s.lines first).map eventOf)).1.Closed
      ∧ (∀ a ∈ (ofText s false rest).annotations, ∀ n, a.scope ≠ .file n)
      ∧ (ofText s false (first ++ rest)).diagnostics
        = (ofText s false first).diagnostics
          ++ ((ofText s false rest).renumber (movedBy 3)).diagnostics
      ∧ ∃ a ∈ (ofText s false (first ++ rest)).annotations,
          a.scope = .trailing 5 := by
  intro s first rest
  have hline : first.EndsLine := Or.inr (by decide +kernel)
  have hblock : s.blockAfter none first.lines = none := by decide +kernel
  have hclosed :
      (Binding.steps .start ((s.lines first).map eventOf)).1.Closed :=
    ⟨List.isEmpty_iff.1 (by decide +kernel),
      List.isEmpty_iff.1 (by decide +kernel)⟩
  have hscopes : (ofText s false rest).annotations.map (·.scope)
      = [.trailing 2] := by
    have hperm := (annotations_ofLines_perm false (s.lines rest)).map (·.scope)
    exact List.perm_singleton.1 (hperm.trans (by decide +kernel))
  have hfile : ∀ a ∈ (ofText s false rest).annotations,
      ∀ n, a.scope ≠ .file n := by
    intro a ha n
    have hmem := List.mem_map_of_mem (f := (·.scope)) ha
    rw [hscopes] at hmem
    rw [List.mem_singleton.1 hmem]
    exact Scope.noConfusion
  obtain ⟨hannotations, hdiagnostics, -⟩ :=
    ofText_append hline hblock hclosed hfile
  refine ⟨hline, hblock, hclosed, hfile, hdiagnostics, ?_⟩
  obtain ⟨a, ha, hscope⟩ := List.mem_map.1
    (hscopes ▸ List.mem_singleton.2 rfl :
      Scope.trailing 2 ∈ (ofText s false rest).annotations.map (·.scope))
  refine ⟨(Recast.renumber (movedBy 3)).annotationOf a, ?_, ?_⟩
  · rw [hannotations]
    exact List.mem_append_right _ (List.mem_map_of_mem ha)
  · show (Recast.renumber (movedBy 3)).scopeOf a.scope = _
    rw [hscope]
    rfl

end Closed

end Marginalia.Scan
