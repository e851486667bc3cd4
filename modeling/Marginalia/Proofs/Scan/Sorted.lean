/-
The order in which a scan gives its results.

Annotations stand in strict order of their anchor and then of their marker
line, since no two of them have their markers on one line. A list that is in
strict order is the only one of its permutations that is (`eq_of_precedes`),
so the order in which the binding came to its annotations, at the end of a
block, at a target or at the end of the file, leaves no trace.

Diagnostics stand in order of their line. What is reported of one line comes
in a fixed order, too (`LineReports`): the sort is stable, what is reported
of a line by itself comes before what the binding reports of it, and that is
at most one diagnostic.
-/
import Marginalia.Proofs.Binding.Faults
import Marginalia.Proofs.Marker.Problems
import Marginalia.Proofs.Scan.Order
import Marginalia.Proofs.Scan.DataModel
import Marginalia.Proofs.Scan.InlineScope

namespace Marginalia

-- ========================================================== strict order

/-- One annotation comes strictly before another one, in order of anchor and
then of marker line. -/
def Annotation.Precedes (a b : Annotation) : Prop :=
  a.anchor < b.anchor ∨ (a.anchor = b.anchor ∧ a.firstLine < b.firstLine)

theorem Annotation.Precedes.asymm {a b : Annotation} (h : a.Precedes b) :
    ¬ b.Precedes a := by
  unfold Precedes at *
  grind

/-- The anchor of an annotation, read off what is shown of it: the first
line of the scope for an inline annotation of a declaration, and the first
line of the annotation otherwise. -/
theorem Annotation.anchor_eq (a : Annotation) :
    a.anchor
      = if a.formName = Text.ofString "Inline"
            ∧ a.scope.kindName = Text.ofString "Declaration"
        then a.scope.first else a.firstLine := by
  obtain ⟨m, scope, salvaged⟩ := a
  have hfile : Text.ofString "FileLevel" ≠ Text.ofString "Declaration" := by
    decide
  have hregion : Text.ofString "Region" ≠ Text.ofString "Declaration" := by
    decide
  have htrailing : Text.ofString "Trailing" ≠ Text.ofString "Declaration" := by
    decide
  cases scope with
  | declaration line text => exact (if_pos ⟨rfl, rfl⟩).symm
  | file _ => exact (if_neg fun h => hfile h.2).symm
  | region _ _ => exact (if_neg fun h => hregion h.2).symm
  | trailing _ => exact (if_neg fun h => htrailing h.2).symm

namespace Scan

open Comment (Line)
open Marker (Pieces Problem)
open Diagnostic (Cause)

/-- Annotations that come in order and have their markers on different
lines come in strict order. -/
theorem precedes_of_before {a b : Annotation} (h : before a b = true)
    (hne : a.firstLine ≠ b.firstLine) : a.Precedes b := by
  unfold before at h
  unfold Annotation.Precedes
  simp only [Bool.or_eq_true, Bool.and_eq_true, decide_eq_true_eq,
    beq_iff_eq] at h
  rcases h with hlt | ⟨heq, hle⟩
  · exact Or.inl hlt
  · exact Or.inr ⟨heq, Int.lt_iff_le_and_ne.2 ⟨hle, hne⟩⟩

/-- Annotations with their markers on different lines are sorted
strictly. -/
theorem pairwise_precedes_mergeSort {entries : List Annotation}
    (h : (entries.map (·.firstLine)).Nodup) :
    (entries.mergeSort before).Pairwise Annotation.Precedes := by
  have hsorted := List.pairwise_mergeSort totalPreorder_before.trans
    totalPreorder_before.total entries
  have hperm := (List.mergeSort_perm entries before).map (·.firstLine)
  have hlines := List.pairwise_map.1 (hperm.symm.nodup h)
  exact (hsorted.and hlines).imp fun hab => precedes_of_before hab.1 hab.2

/-- There is one strict order for some annotations. -/
theorem eq_of_precedes {l l' : List Annotation} (hperm : l.Perm l')
    (h : l.Pairwise Annotation.Precedes)
    (h' : l'.Pairwise Annotation.Precedes) : l = l' :=
  hperm.eq_of_pairwise (fun _ _ _ _ hab hba => absurd hba hab.asymm) h h'

-- ============================================================== one line

/-- What is reported of a line, in order. Of a line with a marker, these are
at most one problem of its value, at most one of its property block, those
of its listed tags, those of its member for tags, and at most one diagnostic
of the binding, which is the fault of a marker of its form. A line that
starts like a marker without being one is reported as such, on request, and
no other line is reported at all. -/
inductive LineReports (report : Bool) (l : Line) : List Diagnostic → Prop
  | marker {p : Pieces} {fault : Option Cause} (pieces : l.pieces? = some p)
      (kind : ∀ cause ∈ fault, cause.kind = p.kind.faultKind) :
      LineReports report l
        (((p.valueProblem?.toList.map Problem.value
              ++ p.propertiesProblem?.toList.map Problem.properties
              ++ p.listProblems.map Problem.tag
              ++ p.memberProblems.map Problem.tag).map Cause.payload
            ++ fault.toList).map (⟨l.number, ·⟩))
  | noKey {content : Text} (pieces : l.pieces? = none)
      (comment : l.content = some content)
      (start : Marker.isAnnotation content = true) :
      LineReports report l
        (if report then [⟨l.number, .noKey content⟩] else [])
  | silent (unmarked : l.isMarked = false) : LineReports report l []

/-- The fault of a line is that of the marker on it. -/
theorem fault?_eventOf (l : Line) :
    (eventOf l).fault?
      = l.pieces?.map fun p => (l.number, p.kind.faultKind) := by
  rw [eventOf_eq]
  cases hp : l.pieces? with
  | some p =>
      cases hk : p.kind <;> simp [hk, Binding.Event.fault?, markerAt,
        Marker.Kind.faultKind]
  | none =>
      cases hm : l.isMarked <;> simp [Binding.Event.fault?]

/-- A line by itself, and what the binding reports of it. -/
theorem lineReports_readLine (report : Bool) (l : Line)
    {fault : Option Cause}
    (h : ∀ cause ∈ fault, (eventOf l).fault? = some (l.number, cause.kind)) :
    LineReports report l
      ((readLine report l).2 ++ fault.toList.map (⟨l.number, ·⟩)) := by
  rw [fault?_eventOf] at h
  cases hp : l.pieces? with
  | some p =>
      have hread : (readLine report l).2
          = p.decode.2.map fun problem => ⟨l.number, .payload problem⟩ := by
        obtain ⟨content, hc, hpieces⟩ := Option.bind_eq_some_iff.1 hp
        unfold readLine
        rw [hc]
        simp only [hpieces]
      have hkind : ∀ cause ∈ fault, cause.kind = p.kind.faultKind := by
        intro cause hcause
        have heq := h cause hcause
        rw [hp] at heq
        injection heq with heq
        injection heq with _ heq
        exact heq.symm
      have hreports : LineReports report l _ := .marker hp hkind
      rw [← p.problems_decode, List.map_append, List.map_map] at hreports
      rw [hread]
      exact hreports
  | none =>
      have hfault : fault = none := by
        refine Option.eq_none_iff_forall_not_mem.2 fun cause hcause => ?_
        have heq := h cause hcause
        rw [hp] at heq
        cases heq
      rw [hfault]
      show LineReports report l ((readLine report l).2 ++ [])
      rw [List.append_nil]
      unfold readLine
      cases hc : l.content with
      | none =>
          refine .silent ?_
          unfold Line.isMarked
          rw [hc]
          rfl
      | some content =>
          have hpieces : Marker.pieces? content = none := by
            unfold Line.pieces? at hp
            rwa [hc] at hp
          simp only [hpieces]
          split
          · next hstart => exact .noKey hp hc hstart
          · next hstart =>
            refine .silent ?_
            unfold Line.isMarked
            rw [hc]
            exact Bool.eq_false_iff.2 hstart

-- ========================================================= several lines

section Lines

variable {lines : List Line} {report : Bool} {l : Line}

/-- What is reported of lines by themselves is on these lines. -/
theorem line_of_mem_reports {d : Diagnostic} (h : d ∈ reports report lines) :
    ∃ l ∈ lines, d.line = l.number := by
  obtain ⟨l, hl, hd⟩ := List.mem_flatMap.1 h
  exact ⟨l, hl, (cause_of_mem_readLine hd).1⟩

/-- Of numbered lines, one has its number alone. -/
theorem eq_of_number (hsorted : lines.Pairwise (·.number < ·.number))
    {x : Line} (hl : l ∈ lines) (hx : x ∈ lines)
    (hnumber : x.number = l.number) : x = l := by
  obtain ⟨first, rest, rfl⟩ := List.append_of_mem hl
  have hfirst := (mem_before_iff hsorted hx).1
  have hrest := (mem_after_iff hsorted hx).1
  rcases List.mem_append.1 hx with hx | hx
  · exact absurd hnumber (Int.ne_of_lt (hfirst hx))
  · rcases List.mem_cons.1 hx with rfl | hx
    · rfl
    · exact absurd hnumber.symm (Int.ne_of_lt (hrest hx))

/-- What is reported of numbered lines on the number of one of them is what
is reported of this line. -/
theorem filter_reports (hsorted : lines.Pairwise (·.number < ·.number))
    (hl : l ∈ lines) :
    (reports report lines).filter (·.line == l.number)
      = (readLine report l).2 := by
  obtain ⟨first, rest, rfl⟩ := List.append_of_mem hl
  obtain ⟨-, hrest, hcross⟩ := List.pairwise_append.1 hsorted
  have hfirst : (reports report first).filter (·.line == l.number) = [] := by
    refine List.filter_eq_nil_iff.2 fun d hd heq => ?_
    obtain ⟨x, hx, hline⟩ := line_of_mem_reports hd
    have hlt := hcross x hx l (List.mem_cons_self ..)
    rw [← hline, beq_iff_eq.1 heq] at hlt
    exact Int.lt_irrefl _ hlt
  have hown : (readLine report l).2.filter (·.line == l.number)
      = (readLine report l).2 :=
    List.filter_eq_self.2 fun d hd =>
      beq_iff_eq.2 (cause_of_mem_readLine hd).1
  have hafter : (reports report rest).filter (·.line == l.number) = [] := by
    refine List.filter_eq_nil_iff.2 fun d hd heq => ?_
    obtain ⟨x, hx, hline⟩ := line_of_mem_reports hd
    have hlt := (List.pairwise_cons.1 hrest).1 x hx
    rw [← hline, beq_iff_eq.1 heq] at hlt
    exact Int.lt_irrefl _ hlt
  rw [reports_append, List.filter_append, hfirst, List.nil_append]
  show ((readLine report l).2 ++ reports report rest).filter _ = _
  rw [List.filter_append, hown, hafter, List.append_nil]

/-- What the binding reports on the number of a line is at most one
diagnostic, and the fault of this line. -/
theorem exists_fault (hsorted : lines.Pairwise (·.number < ·.number))
    (hl : l ∈ lines) :
    ∃ fault : Option Cause,
      (∀ cause ∈ fault, (eventOf l).fault? = some (l.number, cause.kind))
        ∧ (Binding.bind (lines.map eventOf) lines.length).diagnostics.filter
            (·.line == l.number)
          = fault.toList.map (⟨l.number, ·⟩) := by
  rcases Binding.filter_diagnostics_bind (pairwise_lineNumber? hsorted)
    lines.length l.number with h | ⟨cause, ⟨e, he, hf⟩, h⟩
  · exact ⟨none, fun _ hc => (Option.not_mem_none _ hc).elim, h⟩
  · obtain ⟨x, hx, rfl⟩ := List.mem_map.1 he
    have hnumber := number_eventOf (Binding.lineNumber?_of_fault? hf)
    have heq : x = l := eq_of_number hsorted hl hx hnumber.symm
    rw [heq] at hf
    refine ⟨some cause, fun c hc => ?_, h⟩
    rw [← Option.mem_some_iff.1 hc]
    exact hf

/-- The diagnostics of a scan on one of its lines. -/
theorem lineReports_filter (hsorted : lines.Pairwise (·.number < ·.number))
    (hl : l ∈ lines) :
    LineReports report l
      ((ofLines report lines).diagnostics.filter (·.line == l.number)) := by
  obtain ⟨fault, hfault, hbound⟩ := exists_fault hsorted hl
  have hpick : (ofLines report lines).diagnostics.filter (·.line == l.number)
      = (readLine report l).2 ++ fault.toList.map (⟨l.number, ·⟩) := by
    rw [diagnostics_ofLines, totalPreorder_byLine.filter_mergeSort,
      List.filter_append, filter_reports hsorted hl, hbound]
    -- they are all on one line, so they are in order as they are
    refine List.mergeSort_of_pairwise (List.pairwise_of_forall_mem_list ?_)
    have hline : ∀ d ∈ (readLine report l).2
        ++ fault.toList.map (⟨l.number, ·⟩), d.line = l.number := by
      intro d hd
      rcases List.mem_append.1 hd with hd | hd
      · exact (cause_of_mem_readLine hd).1
      · obtain ⟨cause, -, rfl⟩ := List.mem_map.1 hd
        rfl
    intro d hd d' hd'
    unfold byLine
    rw [hline d hd, hline d' hd']
    exact decide_eq_true (Int.le_refl _)
  rw [hpick]
  exact lineReports_readLine report l hfault

end Lines

-- =========================================================== whole scans

/-- The results of a scan come in order. Its annotations are those of the
binding in strict order of anchor and marker line, whatever order the
binding gave them in. Its diagnostics are in order of their line, each of
them is on a line of the text, and those of one line come in the order that
is laid down for it. -/
theorem scan_ordered (s : Comment.Style) (report : Bool) (t : Text) :
    let bound := Binding.bind ((s.lines t).map eventOf) (s.lines t).length
    let scan := ofText s report t
    (∀ a ∈ scan.annotations,
        a.anchor
          = if a.formName = Text.ofString "Inline"
                ∧ a.scope.kindName = Text.ofString "Declaration"
            then a.scope.first else a.firstLine)
      ∧ scan.annotations.Pairwise Annotation.Precedes
      ∧ scan.annotations.Perm bound.annotations
      ∧ (∀ entries : List Annotation, entries.Perm bound.annotations →
          entries.mergeSort before = scan.annotations)
      ∧ scan.diagnostics.Pairwise (·.line ≤ ·.line)
      ∧ (∀ d ∈ scan.diagnostics, ∃ l ∈ s.lines t, d.line = l.number)
      ∧ ∀ l ∈ s.lines t, LineReports report l
          (scan.diagnostics.filter (·.line == l.number)) := by
  intro bound scan
  have hnumbers := lines_ordered s t
  have hnodup : (bound.annotations.map (·.firstLine)).Nodup :=
    Binding.nodup_firstLine (pairwise_lineNumber? hnumbers)
  have hscan : scan.annotations = bound.annotations.mergeSort before :=
    annotations_ofLines report (s.lines t)
  refine ⟨fun a _ => a.anchor_eq, ?_, annotations_ofLines_perm report _,
    fun entries hentries => ?_, ?_, fun d hd => ?_,
    fun l hl => lineReports_filter hnumbers hl⟩
  · rw [hscan]
    exact pairwise_precedes_mergeSort hnodup
  · rw [hscan]
    have hnodup' := (hentries.map (·.firstLine)).symm.nodup hnodup
    have hperm : (entries.mergeSort before).Perm
        (bound.annotations.mergeSort before) :=
      ((List.mergeSort_perm ..).trans hentries).trans
        (List.mergeSort_perm ..).symm
    exact eq_of_precedes hperm (pairwise_precedes_mergeSort hnodup')
      (pairwise_precedes_mergeSort hnodup)
  · show (ofLines report (s.lines t)).diagnostics.Pairwise _
    rw [diagnostics_ofLines]
    refine (List.pairwise_mergeSort totalPreorder_byLine.trans
      totalPreorder_byLine.total _).imp fun h => ?_
    exact of_decide_eq_true h
  · obtain ⟨l, hl, hnumber, -⟩ := (diagnostic_conforms s report t hd).marked
    exact ⟨l, hl, hnumber.symm⟩

/-- A begin marker with a bare word for a value, a list with a tag that
calls for quotes and an empty one, and a member with an item that is no text
and one that is blank. -/
theorem scan_ordered_one_line :
    let s := Catalog.styleFor (some "python") []
    let t : Text := Text.ofString "# @!begin k nope tags=[a b,] "
      ++ Text.ofString "\x7b\"tags\": [1, \"\"]\x7d"
    ((ofText s false t).diagnostics.filter (·.line == 1)).map (·.kind)
      = [.malformedValue, .malformedTagToken, .malformedTagToken,
          .malformedTagToken, .malformedTagToken, .unclosedBlock] := by
  intro s t
  have hlines : s.lines t = [⟨1, some (t.drop 2), t, false⟩] := by
    decide +kernel
  obtain ⟨p, hpieces, hform, hkinds⟩ : ∃ p : Pieces,
      (⟨1, some (t.drop 2), t, false⟩ : Line).pieces? = some p
        ∧ p.kind = .blockBegin
        ∧ p.decode.2.map (fun problem => (Cause.payload problem).kind)
          = [.malformedValue, .malformedTagToken, .malformedTagToken,
            .malformedTagToken, .malformedTagToken] := by
    refine ⟨⟨.blockBegin, "k", some "nope",
      some (Text.ofString "\x7b\"tags\": [1, \"\"]\x7d"), some "a b,"⟩,
      ?_, rfl, ?_⟩
    · decide +kernel
    · decide +kernel
  -- the block that is never closed is reported, too
  have hunclosed : ∃ d ∈ (ofText s false t).diagnostics.filter (·.line == 1),
      d.kind = .unclosedBlock := by
    have hbound : (1, Diagnostic.Kind.unclosedBlock)
        ∈ (Binding.bind ((s.lines t).map eventOf)
            (s.lines t).length).diagnostics.map fun d => (d.line, d.kind) := by
      decide +kernel
    obtain ⟨d, hd, heq⟩ := List.mem_map.1 hbound
    injection heq with hone hkind
    refine ⟨d, List.mem_filter.2 ⟨?_, beq_iff_eq.2 hone⟩, hkind⟩
    exact (diagnostics_ofLines_perm false (s.lines t)).mem_iff.2
      (List.mem_append_right _ hd)
  obtain ⟨-, -, -, -, -, -, hreports⟩ := scan_ordered s false t
  rw [hlines] at hreports
  have hline := hreports _ (List.mem_singleton_self _)
  generalize (ofText s false t).diagnostics.filter _ = ds at hline hunclosed
  cases hline with
  | @marker p' fault pieces kind =>
      have hp : p' = p := Option.some.inj (pieces.symm.trans hpieces)
      rw [hp] at kind hunclosed ⊢
      rw [hform] at kind
      rw [← Pieces.problems_decode] at hunclosed ⊢
      rw [List.map_append, List.map_append, List.map_map, List.map_map,
        List.map_map]
      refine (congrArg (· ++ _) hkinds).trans ?_
      cases fault with
      | some cause =>
          show _ ++ [cause.kind] = _
          rw [kind cause rfl]
          rfl
      | none =>
          obtain ⟨d, hd, hkind⟩ := hunclosed
          have hmem : Diagnostic.Kind.unclosedBlock
              ∈ p.decode.2.map fun problem =>
                (Cause.payload problem).kind := by
            rw [← hkind]
            obtain ⟨cause, hcause, rfl⟩ := List.mem_map.1 hd
            rw [Option.toList_none, List.append_nil] at hcause
            obtain ⟨problem, hproblem, rfl⟩ := List.mem_map.1 hcause
            exact List.mem_map.2 ⟨problem, hproblem, rfl⟩
          rw [hkinds] at hmem
          exact absurd hmem (by decide)
  | noKey pieces _ _ =>
      rw [hpieces] at pieces
      cases pieces
  | silent unmarked =>
      rw [Line.isMarked_of_pieces? hpieces] at unmarked
      cases unmarked

end Scan

end Marginalia
