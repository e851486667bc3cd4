/-
The order of what a scan yields. Annotations are sorted by the line that
they are anchored at and then by the line of their marker, diagnostics by
their line, and both sorts are stable. So whatever keeps the order of line
numbers keeps the order of annotations and diagnostics: a file that is
recast has its annotations in the same places (`mergeSort_recast`).

A scan can be given other line numbers (`renumber`). It is what a scan of
lines with these numbers yields (`annotations_renumber`,
`diagnostics_renumber`), and in each annotation every number is changed and
nothing else (`moved_renumber`).
-/
import Marginalia.Proofs.StableSort
import Marginalia.Proofs.Binding.Recast
import Marginalia.Proofs.Scan.Events

namespace Marginalia

-- ============================================================== numbers

/-- The numbers of the recast file come in the order of those that they
stand for. -/
def Recast.Ordered (r : Recast) : Prop :=
  ∀ m n : LineNumber, r.number m ≤ r.number n ↔ m ≤ n

theorem Recast.ordered_outline : Recast.outline.Ordered :=
  fun _ _ => Iff.rfl

/-- One annotation is another one with other line numbers: every line of
its location and of its scope has its new number, and nothing else
differs. -/
structure Annotation.Moved (f : LineNumber → LineNumber) (a b : Annotation) :
    Prop where
  key : b.key = a.key
  form : b.formName = a.formName
  payload : b.marker.payload = a.marker.payload
  firstLine : b.firstLine = f a.firstLine
  lastLine : b.lastLine = f a.lastLine
  scopeKind : b.scope.kindName = a.scope.kindName
  scopeFirst : b.scope.first = f a.scope.first
  scopeLast : b.scope.last = f a.scope.last
  scopeText : b.scope.text = a.scope.text
  salvaged : b.salvaged = a.salvaged

/-- An annotation with other numbers has them everywhere. A scope that is a
whole file begins at line one in any case, so that number must stay. -/
theorem Annotation.moved_renumber {f : LineNumber → LineNumber}
    {a : Annotation} (h : ∀ n, a.scope = .file n → f 1 = 1) :
    a.Moved f ((Recast.renumber f).annotationOf a) := by
  obtain ⟨m, scope, salvaged⟩ := a
  cases scope with
  | file n =>
      exact ⟨rfl, rfl, rfl, rfl, rfl, rfl, (h n rfl).symm, rfl, rfl, rfl⟩
  | declaration _ _ | region _ _ | trailing _ =>
      exact ⟨rfl, rfl, rfl, rfl, rfl, rfl, rfl, rfl, rfl, rfl⟩

namespace Scan

open Comment (Line)
open StableSort (TotalPreorder)

-- =============================================================== orders

/-- Diagnostics in order of line. -/
def byLine (a b : Diagnostic) : Bool := a.line ≤ b.line

theorem totalPreorder_before : TotalPreorder before where
  trans a b c hab hbc := by grind [before]
  total a b := by grind [before]

theorem totalPreorder_byLine : TotalPreorder byLine where
  trans a b c hab hbc := by grind [byLine]
  total a b := by grind [byLine]

variable {r : Recast}

/-- Recast annotations come in the same order. -/
theorem before_recast (h : r.Ordered) (a b : Annotation) :
    before (r.annotationOf a) (r.annotationOf b) = before a b := by
  have hanchor := h a.anchor b.anchor
  have hanchor' := h b.anchor a.anchor
  have hfirst := h a.firstLine b.firstLine
  unfold before
  rw [r.anchor_annotationOf, r.anchor_annotationOf, r.firstLine_annotationOf,
    r.firstLine_annotationOf]
  grind

/-- Sorting recast annotations is recasting sorted annotations. -/
theorem mergeSort_recast (h : r.Ordered) (l : List Annotation) :
    (l.map r.annotationOf).mergeSort before
      = (l.mergeSort before).map r.annotationOf :=
  (List.map_mergeSort fun a _ b _ => (before_recast h a b).symm).symm

/-- Sorting recast diagnostics is recasting sorted diagnostics. -/
theorem mergeSort_recast_diagnostics (h : r.Ordered) (l : List Diagnostic) :
    (l.map r.diagnosticOf).mergeSort byLine
      = (l.mergeSort byLine).map r.diagnosticOf := by
  refine (List.map_mergeSort fun a _ b _ => ?_).symm
  unfold byLine
  exact decide_eq_decide.2 (h a.line b.line).symm

-- ========================================================== whole scans

/-- What is reported of lines by themselves. -/
def reports (report : Bool) (lines : List Line) : List Diagnostic :=
  lines.flatMap fun l => (readLine report l).2

theorem reports_append (report : Bool) (first rest : List Line) :
    reports report (first ++ rest)
      = reports report first ++ reports report rest :=
  List.flatMap_append

/-- The annotations of a scan, in order. -/
theorem annotations_ofLines (report : Bool) (lines : List Line) :
    (ofLines report lines).annotations
      = (Binding.bind (lines.map eventOf) lines.length).annotations.mergeSort
          before := by
  rw [ofLines_eq]

/-- The diagnostics of a scan, in order: those of the lines by themselves
come before those of the binding. -/
theorem diagnostics_ofLines (report : Bool) (lines : List Line) :
    (ofLines report lines).diagnostics
      = (reports report lines
          ++ (Binding.bind (lines.map eventOf) lines.length).diagnostics
        ).mergeSort byLine := by
  rw [ofLines_eq]
  rfl

-- ======================================================= other numbers

variable (f : LineNumber → LineNumber)

/-- A scan with other line numbers. -/
def renumber (s : Scan) : Scan :=
  ⟨s.annotations.map (Recast.renumber f).annotationOf,
    s.diagnostics.map (Recast.renumber f).diagnosticOf⟩

theorem pieces?_renumber (l : Line) : (l.renumber f).pieces? = l.pieces? := rfl

theorem isMarked_renumber (l : Line) :
    (l.renumber f).isMarked = l.isMarked := rfl

/-- A line with another number is fed as such. -/
theorem eventOf_renumber (l : Line) :
    eventOf (l.renumber f) = (eventOf l).recast (.renumber f) := by
  rw [eventOf_eq, eventOf_eq, pieces?_renumber, isMarked_renumber]
  cases l.pieces? with
  | some p =>
      obtain ⟨kind, key, value, properties, tags⟩ := p
      cases kind <;> rfl
  | none => cases l.isMarked <;> rfl

theorem map_eventOf_renumber (lines : List Line) :
    (lines.map (.renumber f)).map eventOf
      = (lines.map eventOf).map (·.recast (.renumber f)) := by
  rw [List.map_map, List.map_map]
  exact List.map_congr_left fun l _ => eventOf_renumber f l

/-- What is reported of a line with another number. -/
theorem snd_readLine_renumber (report : Bool) (l : Line) :
    (readLine report (l.renumber f)).2
      = (readLine report l).2.map (Recast.renumber f).diagnosticOf := by
  unfold readLine
  rw [show (l.renumber f).content = l.content from rfl]
  cases l.content with
  | none => rfl
  | some content =>
      cases hp : Marker.pieces? content with
      | some p =>
          simp only [hp, List.map_map]
          rfl
      | none =>
          simp only [hp]
          split
          · cases report <;> rfl
          · rfl

theorem reports_renumber (report : Bool) (lines : List Line) :
    reports report (lines.map (.renumber f))
      = (reports report lines).map (Recast.renumber f).diagnosticOf := by
  unfold reports
  rw [List.flatMap_map, List.map_flatMap]
  exact congrArg (List.flatMap · lines)
    (funext fun l => snd_readLine_renumber f report l)

variable {f}

/-- The annotations of a scan with other numbers, in the order that their
own numbers call for. -/
theorem annotations_renumber (hf : (Recast.renumber f).Ordered)
    (report : Bool) (lines : List Line) :
    ((ofLines report lines).renumber f).annotations
      = ((Binding.bind (lines.map eventOf) lines.length).recast
          (.renumber f)).annotations.mergeSort before := by
  show (ofLines report lines).annotations.map _
    = (List.map _ _).mergeSort before
  rw [annotations_ofLines, mergeSort_recast hf]

/-- The diagnostics of a scan with other numbers, in the order that their
own numbers call for. -/
theorem diagnostics_renumber (hf : (Recast.renumber f).Ordered)
    (report : Bool) (lines : List Line) :
    ((ofLines report lines).renumber f).diagnostics
      = (reports report (lines.map (.renumber f))
          ++ ((Binding.bind (lines.map eventOf) lines.length).recast
            (.renumber f)).diagnostics).mergeSort byLine := by
  show (ofLines report lines).diagnostics.map _
    = (_ ++ List.map _ _).mergeSort byLine
  rw [diagnostics_ofLines, ← mergeSort_recast_diagnostics hf, List.map_append,
    reports_renumber]

end Scan

end Marginalia
