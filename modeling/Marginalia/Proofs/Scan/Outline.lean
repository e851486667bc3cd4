/-
What payloads have no part in. Two texts are told apart by the binding of
their markers only where a line of one differs from the same line of the
other in the key or the form of its marker, in being an annotation line, or
in being idle (`Alike`). Where no line does, whatever else the texts hold,
well formed or not, their annotations have the same outlines in the same
order, and the same is reported of blocks and of markers without a target
(`outline_of_alike`): a bad payload stays the matter of its own marker.

Both texts are recast to nothing but that outline, so there is a single run
of the binding behind the two.
-/
import Mathlib.Data.List.Forall2
import Marginalia.Proofs.Scan.Order

namespace Marginalia

-- ================================================================ views

/-- An annotation without its payload and the text of its scope, in the
file with a name. -/
structure Annotation.Outline where
  key : Text
  form : Text
  file : Text
  firstLine : LineNumber
  lastLine : LineNumber
  scopeKind : Text
  scopeFirst : LineNumber
  scopeLast : LineNumber
  salvaged : Bool
  deriving DecidableEq, Repr

/-- The outline of an annotation of a file. -/
def Annotation.outline (file : Text) (a : Annotation) : Annotation.Outline :=
  ⟨a.key, a.formName, file, a.firstLine, a.lastLine, a.scope.kindName,
    a.scope.first, a.scope.last, a.salvaged⟩

/-- A diagnostic of how the markers of a file go together. -/
def Diagnostic.isStructural (d : Diagnostic) : Bool :=
  [.unmatchedEnd, .unclosedBlock, .dangling].contains d.kind

namespace Comment.Line

/-- The lines have markers of the same form with the same key or both have
none, both are annotation lines or neither is, and if neither is then both
are idle or neither is. -/
structure Alike (l l' : Line) : Prop where
  marker : l.pieces?.map (fun p => (p.kind, p.key))
    = l'.pieces?.map fun p => (p.kind, p.key)
  marked : l.isMarked = l'.isMarked
  idle : l.isMarked = false → l.isIdle = l'.isIdle

instance (l l' : Line) : Decidable (l.Alike l') :=
  decidable_of_iff
    (l.pieces?.map (fun p => (p.kind, p.key))
        = l'.pieces?.map (fun p => (p.kind, p.key))
      ∧ l.isMarked = l'.isMarked
      ∧ (l.isMarked = false → l.isIdle = l'.isIdle))
    ⟨fun h => ⟨h.1, h.2.1, h.2.2⟩, fun h => ⟨h.marker, h.marked, h.idle⟩⟩

end Comment.Line

namespace Scan

open Comment (Line Style)

-- ============================================================== outlines

/-- The outline of an annotation is left when its file is recast to
nothing else. -/
theorem outline_annotationOf (file : Text) (a : Annotation) :
    (Recast.outline.annotationOf a).outline file = a.outline file := by
  obtain ⟨m, scope, salvaged⟩ := a
  cases scope <;> rfl

/-- Lines with one number that are alike are fed as lines with one
outline. -/
theorem eventOf_outline {l l' : Line} (hnumber : l.number = l'.number)
    (h : l.Alike l') :
    (eventOf l).recast .outline = (eventOf l').recast .outline := by
  have hmarker := h.marker
  rw [eventOf_eq, eventOf_eq]
  cases hp : l.pieces? with
  | some p =>
      rw [hp] at hmarker
      obtain ⟨p', hp', heq⟩ := Option.map_eq_some_iff.1 hmarker.symm
      obtain ⟨hkind, hkey⟩ := Prod.mk.inj heq
      have hmark : Recast.outline.markerOf (markerAt l p)
          = Recast.outline.markerOf (markerAt l' p') := by
        show Marker.mk l.number p.key .empty = Marker.mk l'.number p'.key .empty
        rw [hnumber, hkey]
      rw [hp']
      simp only [hkind]
      cases p.kind with
      | inline => exact congrArg Binding.Event.inline hmark
      | blockBegin => exact congrArg Binding.Event.blockBegin hmark
      | blockEnd =>
          show Binding.Event.blockEnd l.number p.key = .blockEnd l'.number p'.key
          rw [hnumber, hkey]
  | none =>
      rw [hp] at hmarker
      have hp' := Option.map_eq_none_iff.1 hmarker.symm
      rw [hp', ← h.marked]
      cases hm : l.isMarked with
      | true => rfl
      | false =>
          show Binding.Event.line _ = Binding.Event.line _
          unfold Recast.outline
          simp only [hnumber, h.idle hm]

/-- Lines that are alike one by one are fed as lines with one outline. -/
theorem map_eventOf_outline {s s' : Style} (number : LineNumber)
    {block block' : Option Comment.Block} {raws raws' : List Text}
    (h : List.Forall₂ Line.Alike (s.readLines number block raws)
      (s'.readLines number block' raws')) :
    ((s.readLines number block raws).map eventOf).map (·.recast .outline)
      = ((s'.readLines number block' raws').map eventOf).map
          (·.recast .outline) := by
  induction raws generalizing number block block' raws' with
  | nil =>
      cases raws' with
      | nil => rfl
      | cons raw' rest' => cases h
  | cons raw rest ih =>
      cases raws' with
      | nil => cases h
      | cons raw' rest' =>
          rw [Style.readLines_cons, Style.readLines_cons] at h ⊢
          obtain ⟨hhead, hrest⟩ := List.forall₂_cons.1 h
          rw [List.map_cons, List.map_cons, List.map_cons, List.map_cons]
          exact congrArg₂ _ (eventOf_outline rfl hhead) (ih (number + 1) hrest)

-- ================================================================ scans

variable {s s' : Style} {t t' : Text}

/-- Texts whose lines are alike are bound in one way. -/
theorem bind_outline (h : List.Forall₂ Line.Alike (s.lines t) (s'.lines t')) :
    (Binding.bind ((s.lines t).map eventOf) (s.lines t).length).recast .outline
      = (Binding.bind ((s'.lines t').map eventOf) (s'.lines t').length).recast
          .outline := by
  rw [← Binding.bind_recast .outline _ rfl,
    ← Binding.bind_recast .outline _ rfl]
  exact congrArg₂ _ (map_eventOf_outline 1 h)
    (congrArg Nat.cast h.length_eq)

/-- The outlines of the annotations of a scan. -/
theorem map_outline_annotations (report : Bool) (file : Text)
    (lines : List Line) :
    (ofLines report lines).annotations.map (·.outline file)
      = (((Binding.bind (lines.map eventOf) lines.length).recast
          .outline).annotations.mergeSort before).map (·.outline file) := by
  show _ = ((List.map _ _).mergeSort before).map _
  rw [mergeSort_recast Recast.ordered_outline, ← annotations_ofLines report,
    List.map_map]
  exact List.map_congr_left fun a _ => (outline_annotationOf file a).symm

/-- What a scan reports of the markers of a file together is reported by
the binding. -/
theorem filter_isStructural (report : Bool) (lines : List Line) :
    (ofLines report lines).diagnostics.filter (·.isStructural)
      = (((Binding.bind (lines.map eventOf) lines.length).recast
          .outline).diagnostics.filter (·.isStructural)).mergeSort byLine := by
  have hreports : (reports report lines).filter (·.isStructural) = [] := by
    rw [List.filter_eq_nil_iff]
    intro d hd
    obtain ⟨l, -, hd⟩ := List.mem_flatMap.1 hd
    unfold Diagnostic.isStructural Diagnostic.kind
    rcases (cause_of_mem_readLine hd).2 with ⟨p, hc⟩ | ⟨content, hc⟩
    · rw [hc]
      cases p <;> exact Bool.false_ne_true
    · rw [hc]
      exact Bool.false_ne_true
  -- neither the line nor the cause of a diagnostic is recast
  have hsame : ∀ diagnostics : List Diagnostic,
      diagnostics.map Recast.outline.diagnosticOf = diagnostics :=
    fun diagnostics => List.map_id diagnostics
  rw [diagnostics_ofLines, totalPreorder_byLine.filter_mergeSort,
    List.filter_append, hreports, List.nil_append]
  show _ = ((List.map _ _).filter _).mergeSort _
  rw [hsame]

/-- Texts whose lines are alike have annotations with the same outlines in
the same order, and the same is reported of how their markers go together,
whatever the payloads of the markers are. -/
theorem outline_of_alike
    (h : List.Forall₂ Line.Alike (s.lines t) (s'.lines t'))
    (report report' : Bool) (file : Text) :
    (ofText s report t).annotations.map (·.outline file)
        = (ofText s' report' t').annotations.map (·.outline file)
      ∧ (ofText s report t).diagnostics.filter (·.isStructural)
        = (ofText s' report' t').diagnostics.filter (·.isStructural) := by
  have hbind := bind_outline h
  unfold ofText
  constructor
  · rw [map_outline_annotations, map_outline_annotations, hbind]
  · rw [filter_isStructural, filter_isStructural, hbind]

/-- Payloads that cannot be read, in a block that is never closed, have the
outlines of such that can be read. -/
theorem outline_of_alike_malformed :
    let s := Catalog.styleFor (some "python") []
    let s' := Catalog.styleFor (some "c") []
    let t : Text := "# @!begin a alice\n# @!b \x7bbad\nx = 1\n"
    let t' : Text := "// @!begin a 1\n// @!b 2 #ok\nint x;\n"
    List.Forall₂ Line.Alike (s.lines t) (s'.lines t')
      ∧ (∃ d ∈ (ofText s false t).diagnostics, d.kind = .malformedProperties)
      ∧ (ofText s' false t').diagnostics.map (·.kind) = [.unclosedBlock]
      ∧ (ofText s false t).annotations.map (·.outline "f")
        = (ofText s' false t').annotations.map (·.outline "f")
      ∧ (ofText s false t).diagnostics.filter (·.isStructural)
        = (ofText s' false t').diagnostics.filter (·.isStructural) := by
  intro s s' t t'
  have halike : List.Forall₂ Line.Alike (s.lines t) (s'.lines t') := by
    decide +kernel
  refine ⟨halike, ?_, ?_, outline_of_alike halike false false "f"⟩
  · have hreport : (reports false (s.lines t)).any
        (·.kind == .malformedProperties) = true := by
      decide +kernel
    obtain ⟨d, hd, hkind⟩ := List.any_eq_true.1 hreport
    exact ⟨d, (diagnostics_ofLines_perm false (s.lines t)).mem_iff.2
      (List.mem_append_left _ hd), eq_of_beq hkind⟩
  · have hperm := (diagnostics_ofLines_perm false (s'.lines t')).map (·.kind)
    exact List.perm_singleton.1 (hperm.trans (by decide +kernel))

end Scan

end Marginalia
