/-
What every scan guarantees of the annotations and the diagnostics that it
yields. An annotation comes from the marker of one line and has that
marker's form, its range and its scope lie inside the text, and it is
reported in just the cases that call for it (`Annotation.Conforms`).

The lines of a text are numbered from one, and a marker counts only when the
content of its comment starts with `@!`, so all of this follows from what
the binding does with lines that are fed in order.
-/
import Marginalia.Proofs.Comment.Lines
import Marginalia.Proofs.Marker.Written
import Marginalia.Proofs.Binding.Placement
import Marginalia.Proofs.Scan.Events
import Marginalia.Report

namespace Marginalia

open Comment (Line)

-- ========================================================== the data model

/-- The comment on the line with this number starts with `@!`. -/
def MarkedAt (lines : List Line) (n : LineNumber) : Prop :=
  ∃ l ∈ lines, l.number = n
    ∧ ∃ content, l.content = some content ∧ content.startsWith "@!" = true

/-- The form of the marker that an annotation comes from. -/
def Annotation.markerKind (a : Annotation) : Marker.Kind :=
  if a.isBlock then .blockBegin else .inline

/-- The guarantees for an annotation of a scan of these lines. -/
structure Annotation.Conforms (lines : List Line) (scan : Scan)
    (a : Annotation) : Prop where
  key : Marker.isKey a.key = true
  marker : ∃ l ∈ lines, ∃ p, l.pieces? = some p ∧ p.kind = a.markerKind
    ∧ a.marker = Scan.markerAt l p
  marked : MarkedAt lines a.firstLine
  range : 1 ≤ a.firstLine ∧ a.firstLine ≤ a.lastLine
    ∧ a.lastLine ≤ lines.length
  scope : 1 ≤ a.scope.first ∧ a.scope.first ≤ a.scope.last
    ∧ a.scope.last ≤ lines.length
  inline : a.isBlock = false → a.firstLine = a.lastLine ∧ a.salvaged = false
    ∧ ((∃ line text, a.scope = .declaration line text ∧ a.firstLine < line)
      ∨ (∃ n, a.scope = .file n) ∨ ∃ n, a.scope = .trailing n)
  block : a.isBlock = true → a.scope = .region a.firstLine a.lastLine
  salvaged : a.salvaged = true
    ↔ ∃ d ∈ scan.diagnostics, d.kind = .unclosedBlock ∧ d.line = a.firstLine
  toLastLine : a.salvaged = true → a.lastLine = lines.length
  trailing : (∃ n, a.scope = .trailing n)
    ↔ ∃ d ∈ scan.diagnostics, d.kind = .dangling ∧ d.line = a.firstLine

/-- The guarantees for a diagnostic of a scan of these lines: its location
is a single line, which is an annotation line. -/
structure Diagnostic.Conforms (lines : List Line) (d : Diagnostic) :
    Prop where
  marked : MarkedAt lines d.line
  oneLine : ∀ file, ∃ members : Assoc Json, d.toJson file = .object members
    ∧ members.get? "location" = some (.location file d.line d.line)

namespace Scan

open Marker (Pieces)

-- ============================================================== one line

/-- What stands behind the event of a line. -/
theorem eventOf_spec (l : Line) :
    match eventOf l with
    | .inline m =>
      ∃ p, l.pieces? = some p ∧ p.kind = .inline ∧ m = markerAt l p
    | .blockBegin m =>
      ∃ p, l.pieces? = some p ∧ p.kind = .blockBegin ∧ m = markerAt l p
    | .blockEnd number _ => number = l.number ∧ l.isMarked = true
    | .unrecognized => l.isMarked = true
    | .line l' => l' = l := by
  rw [eventOf_eq]
  cases hp : l.pieces? with
  | some p =>
      cases hk : p.kind with
      | inline =>
          simp only [hk]
          exact ⟨p, rfl, hk, rfl⟩
      | blockBegin =>
          simp only [hk]
          exact ⟨p, rfl, hk, rfl⟩
      | blockEnd =>
          simp only [hk]
          exact ⟨trivial, Line.isMarked_of_pieces? hp⟩
  | none =>
      cases hm : l.isMarked with
      | true => simp
      | false => simp

/-- A line is fed with its own number. -/
theorem number_eventOf {l : Line} {n : LineNumber}
    (h : (eventOf l).lineNumber? = some n) : n = l.number := by
  have hspec := eventOf_spec l
  cases he : eventOf l with
  | inline m =>
      rw [he] at h hspec
      obtain ⟨p, -, -, rfl⟩ := hspec
      injection h with h
      exact h.symm
  | blockBegin m =>
      rw [he] at h hspec
      obtain ⟨p, -, -, rfl⟩ := hspec
      injection h with h
      exact h.symm
  | blockEnd number key =>
      rw [he] at h hspec
      injection h with h
      rw [← h, hspec.1]
  | unrecognized =>
      rw [he] at h
      cases h
  | line l' =>
      rw [he] at h hspec
      injection h with h
      rw [← h, show l' = l from hspec]

/-- What is reported of a line by itself is reported of an annotation
line. -/
theorem isMarked_of_mem_readLine {report : Bool} {l : Line} {d : Diagnostic}
    (h : d ∈ (readLine report l).2) : l.isMarked = true := by
  unfold readLine at h
  cases hc : l.content with
  | none =>
      rw [hc] at h
      cases h
  | some content =>
      rw [hc] at h
      cases hp : Marker.pieces? content with
      | some p =>
          refine Line.isMarked_of_pieces? (p := p) ?_
          unfold Line.pieces?
          rw [hc]
          exact hp
      | none =>
          simp only [hp] at h
          split at h
          · next ha =>
            unfold Line.isMarked
            rw [hc]
            exact ha
          · cases h

/-- A piece that cannot be decoded and a key that is none are neither open
blocks nor markers without a target. -/
theorem kind_of_mem_readLine {report : Bool} {l : Line} {d : Diagnostic}
    (h : d ∈ (readLine report l).2) :
    d.kind ≠ .unclosedBlock ∧ d.kind ≠ .dangling := by
  unfold Diagnostic.kind
  rcases (cause_of_mem_readLine h).2 with ⟨problem, hc⟩ | ⟨content, hc⟩
  · rw [hc]
    cases problem <;>
      exact ⟨Diagnostic.Kind.noConfusion, Diagnostic.Kind.noConfusion⟩
  · rw [hc]
    exact ⟨Diagnostic.Kind.noConfusion, Diagnostic.Kind.noConfusion⟩

-- ============================================================= the lines

section Lines

variable {lines : List Line} {report : Bool}

/-- Lines that are numbered in order are fed in order. -/
theorem pairwise_lineNumber?
    (hsorted : lines.Pairwise (·.number < ·.number)) :
    ((lines.map eventOf).filterMap
      Binding.Event.lineNumber?).Pairwise (· < ·) := by
  rw [List.filterMap_map, List.pairwise_filterMap]
  refine hsorted.imp fun hab n hn n' hn' => ?_
  rw [number_eventOf hn, number_eventOf hn']
  exact hab

/-- The lines that are fed with a number are lines of the text. -/
theorem mem_lineNumber? {n : LineNumber}
    (h : n ∈ (lines.map eventOf).filterMap Binding.Event.lineNumber?) :
    ∃ l ∈ lines, l.number = n := by
  obtain ⟨e, he, hn⟩ := List.mem_filterMap.1 h
  obtain ⟨l, hl, rfl⟩ := List.mem_map.1 he
  exact ⟨l, hl, (number_eventOf hn).symm⟩

theorem pieces_of_inlineMarker? {l : Line} {m : Marker}
    (h : (eventOf l).inlineMarker? = some m) :
    ∃ p, l.pieces? = some p ∧ p.kind = .inline ∧ m = markerAt l p := by
  have hspec := eventOf_spec l
  cases he : eventOf l with
  | inline m' =>
      rw [he] at h hspec
      injection h with h
      rwa [← h]
  | blockBegin _ | blockEnd _ _ | unrecognized | line _ =>
      rw [he] at h
      cases h

theorem pieces_of_beginMarker? {l : Line} {m : Marker}
    (h : (eventOf l).beginMarker? = some m) :
    ∃ p, l.pieces? = some p ∧ p.kind = .blockBegin ∧ m = markerAt l p := by
  have hspec := eventOf_spec l
  cases he : eventOf l with
  | blockBegin m' =>
      rw [he] at h hspec
      injection h with h
      rwa [← h]
  | inline _ | blockEnd _ _ | unrecognized | line _ =>
      rw [he] at h
      cases h

/-- Every annotation comes from the marker on a line, and has its form. -/
theorem marker_of_mem {a : Annotation} {lastLine : LineNumber}
    (ha : a ∈ (Binding.bind (lines.map eventOf) lastLine).annotations) :
    ∃ l ∈ lines, ∃ p, l.pieces? = some p ∧ p.kind = a.markerKind
      ∧ a.marker = markerAt l p := by
  unfold Annotation.markerKind
  cases hb : a.isBlock with
  | true =>
      have hmem := (Binding.beginMarkers_perm (lines.map eventOf)
        lastLine).mem_iff.2
        (List.mem_map_of_mem (List.mem_filter.2 ⟨ha, hb⟩))
      obtain ⟨e, he, hm⟩ := List.mem_filterMap.1 hmem
      obtain ⟨l, hl, rfl⟩ := List.mem_map.1 he
      exact ⟨l, hl, pieces_of_beginMarker? hm⟩
  | false =>
      have hmem := (Binding.inlineMarkers_perm (lines.map eventOf)
        lastLine).mem_iff.2
        (List.mem_map_of_mem (List.mem_filter.2 ⟨ha, by rw [hb]; rfl⟩))
      obtain ⟨e, he, hm⟩ := List.mem_filterMap.1 hmem
      obtain ⟨l, hl, rfl⟩ := List.mem_map.1 he
      exact ⟨l, hl, pieces_of_inlineMarker? hm⟩

/-- Open blocks and markers without a target are reported by the binding
only. -/
theorem exists_diagnostic_iff {kind : Diagnostic.Kind} {n : LineNumber}
    (hkind : kind = .unclosedBlock ∨ kind = .dangling) :
    (∃ d ∈ (ofLines report lines).diagnostics, d.kind = kind ∧ d.line = n)
      ↔ ∃ d ∈ (Binding.bind (lines.map eventOf) lines.length).diagnostics,
          d.kind = kind ∧ d.line = n := by
  constructor
  · rintro ⟨d, hd, hk, hn⟩
    rcases List.mem_append.1
      ((diagnostics_ofLines_perm report lines).mem_iff.1 hd) with hd | hd
    · obtain ⟨l, -, hd⟩ := List.mem_flatMap.1 hd
      have hne := kind_of_mem_readLine hd
      rcases hkind with rfl | rfl
      · exact absurd hk hne.1
      · exact absurd hk hne.2
    · exact ⟨d, hd, hk, hn⟩
  · rintro ⟨d, hd, hk⟩
    exact ⟨d, (diagnostics_ofLines_perm report lines).mem_iff.2
      (List.mem_append_right _ hd), hk⟩

/-- An annotation line of a text is one whose comment starts with `@!`
without white space before it. -/
theorem markedAt_of_isMarked {s : Comment.Style} {t : Text} {l : Line}
    (hl : l ∈ s.lines t) (hm : l.isMarked = true) :
    MarkedAt (s.lines t) l.number := by
  obtain ⟨block, hcontent, -⟩ := Comment.Style.exists_readLine_of_mem hl
  obtain ⟨content, hc, hstart⟩ := (Option.any_eq_true _ _).1 hm
  refine ⟨l, hl, rfl, content, hc, ?_⟩
  rw [hcontent] at hc
  unfold Marker.isAnnotation at hstart
  rwa [Comment.Style.trimLeft_content hc] at hstart

end Lines

-- ================================================================= texts

section Text

variable (s : Comment.Style) (report : Bool) (t : Text)

/-- The lines of a text are fed in order. -/
theorem lines_ordered : (s.lines t).Pairwise (·.number < ·.number) :=
  s.pairwise_number_readLines 1 none t.lines

/-- Every scope of a scan lies where its kind calls for in the text. -/
theorem placed_of_mem {a : Annotation}
    (ha : a ∈ (ofText s report t).annotations) :
    Binding.Placed a.marker (s.lines t).length a.scope := by
  have ha' := (annotations_ofLines_perm report (s.lines t)).mem_iff.1 ha
  obtain ⟨l, hl, -⟩ := marker_of_mem ha'
  have hl' := Comment.Style.number_of_mem_lines hl
  refine Binding.placed_bind (pairwise_lineNumber? (lines_ordered s t)) ?_
    (Int.le_trans hl'.1 hl'.2) ha'
  intro n hn
  obtain ⟨l, hl, rfl⟩ := mem_lineNumber? hn
  exact Comment.Style.number_of_mem_lines hl

/-- Every annotation of a scan keeps the guarantees of the data model. -/
theorem conforms_of_mem {a : Annotation}
    (ha : a ∈ (ofText s report t).annotations) :
    a.Conforms (s.lines t) (ofText s report t) := by
  have hplaced := placed_of_mem s report t ha
  have ha' := (annotations_ofLines_perm report (s.lines t)).mem_iff.1 ha
  have hsorted := pairwise_lineNumber? (lines_ordered s t)
  obtain ⟨l, hl, p, hp, hk, hm⟩ := marker_of_mem ha'
  have hfirst : a.firstLine = l.number := congrArg Marker.line hm
  have hlines := Comment.Style.number_of_mem_lines hl
  rw [← hfirst] at hlines
  -- a text with an annotation has a line, so it is not counted as empty
  have hmax : max ((s.lines t).length : Int) 1 = (s.lines t).length :=
    Int.max_eq_left (Int.le_trans hlines.1 hlines.2)
  have hsalvaged : a.salvaged = true →
      a.isBlock = true ∧ a.lastLine = (s.lines t).length := by
    intro h
    have hlast := Binding.lastLine_of_salvaged ha' h
    rwa [hmax] at hlast
  constructor
  case key =>
    obtain ⟨content, -, hpieces⟩ := Option.bind_eq_some_iff.1 hp
    unfold Annotation.key
    rw [hm]
    exact Marker.isKey_of_pieces? hpieces
  case marker => exact ⟨l, hl, p, hp, hk, hm⟩
  case marked =>
    rw [hfirst]
    exact markedAt_of_isMarked hl (Line.isMarked_of_pieces? hp)
  case range => exact ⟨hlines.1, hplaced.range hlines.2⟩
  case scope => exact hplaced.inside hlines.1 hlines.2
  case inline =>
    intro hb
    obtain ⟨hrange, hscope⟩ := hplaced.inline hb
    refine ⟨hrange, ?_, hscope⟩
    cases h : a.salvaged with
    | false => rfl
    | true =>
        rw [(hsalvaged h).1] at hb
        cases hb
  case block => exact fun hb => hplaced.block hb
  case salvaged =>
    rw [Binding.salvaged_iff_reported hsorted ha']
    exact (exists_diagnostic_iff (.inl rfl)).symm
  case toLastLine => exact fun h => (hsalvaged h).2
  case trailing =>
    rw [← Annotation.isTrailing_iff, Binding.trailing_iff_reported hsorted ha']
    exact (exists_diagnostic_iff (.inr rfl)).symm

/-- What is reported of a text stands on a line whose comment starts with
`@!`. -/
theorem diagnostic_conforms {d : Diagnostic}
    (hd : d ∈ (ofText s report t).diagnostics) :
    d.Conforms (s.lines t) := by
  refine ⟨?_, fun file => ⟨_, rfl, rfl⟩⟩
  -- it is reported of a line by itself, or by the binding of the markers
  rcases List.mem_append.1
    ((diagnostics_ofLines_perm report (s.lines t)).mem_iff.1 hd) with hd | hd
  · obtain ⟨l, hl, hd⟩ := List.mem_flatMap.1 hd
    rw [(cause_of_mem_readLine hd).1]
    exact markedAt_of_isMarked hl (isMarked_of_mem_readLine hd)
  · rcases Binding.line_of_mem_diagnostics hd with ⟨key, he⟩ | ⟨a, ha, hline⟩
    · obtain ⟨l, hl, he⟩ := List.mem_map.1 he
      have hspec := eventOf_spec l
      rw [he] at hspec
      rw [show d.line = l.number from hspec.1]
      exact markedAt_of_isMarked hl hspec.2
    · obtain ⟨l, hl, p, hp, -, hm⟩ := marker_of_mem ha
      rw [← hline, show a.firstLine = l.number from congrArg Marker.line hm]
      exact markedAt_of_isMarked hl (Line.isMarked_of_pieces? hp)

/-- A text has no annotations of the whole of it beside such that apply to
nothing. -/
theorem not_file_and_trailing {a b : Annotation}
    (ha : a ∈ (ofText s report t).annotations)
    (hb : b ∈ (ofText s report t).annotations) {n n' : LineNumber}
    (hfile : a.scope = .file n) : b.scope ≠ .trailing n' := by
  intro htrailing
  have hleft : a.isLeftover = true := by
    unfold Annotation.isLeftover
    rw [hfile]
  have hleft' : b.isLeftover = true := by
    unfold Annotation.isLeftover
    rw [htrailing]
  have hperm := annotations_ofLines_perm report (s.lines t)
  have hsame := Binding.scope_of_isLeftover (hperm.mem_iff.1 ha) hleft
  rw [← Binding.scope_of_isLeftover (hperm.mem_iff.1 hb) hleft', hfile,
    htrailing] at hsame
  cases hsame

/-- The guarantees of the data model hold of every scan: each annotation and
each diagnostic keeps its own, no two annotations have their markers on one
line, and none applies to the whole text where another one applies to
nothing. -/
theorem scan_conforms :
    (∀ a ∈ (ofText s report t).annotations,
        a.Conforms (s.lines t) (ofText s report t))
      ∧ ((ofText s report t).annotations.map (·.firstLine)).Nodup
      ∧ (∀ a ∈ (ofText s report t).annotations,
          ∀ b ∈ (ofText s report t).annotations,
          ∀ n n', a.scope = .file n → b.scope ≠ .trailing n')
      ∧ ∀ d ∈ (ofText s report t).diagnostics, d.Conforms (s.lines t) := by
  refine ⟨fun a ha => conforms_of_mem s report t ha, ?_,
    fun a ha b hb n n' => not_file_and_trailing s report t ha hb,
    fun d hd => diagnostic_conforms s report t hd⟩
  have hperm := annotations_ofLines_perm report (s.lines t)
  exact (hperm.map _).symm.nodup (Binding.nodup_firstLine
    (pairwise_lineNumber? (lines_ordered s t)))

/-- A block that is never closed lasts up to the second and last line, and
is reported on its own line. -/
theorem scan_conforms_unclosed :
    let s := Catalog.styleFor (some "python") []
    let t : Text := "# @!begin a\nx = 1"
    ∃ a ∈ (ofText s false t).annotations,
      a.salvaged = true ∧ a.scope = .region 1 2 ∧ a.lastLine = 2
        ∧ ∃ d ∈ (ofText s false t).diagnostics,
            d.kind = .unclosedBlock ∧ d.line = a.firstLine
              ∧ MarkedAt (s.lines t) d.line := by
  intro s t
  have hbind : (Binding.bind ((s.lines t).map eventOf)
      (s.lines t).length).annotations.map
        (fun a => (a.salvaged, a.firstLine)) = [(true, 1)] := by
    decide +kernel
  have hlength : (s.lines t).length = 2 := by decide +kernel
  obtain ⟨a, rest, hcons, ha, -⟩ := List.map_eq_cons_iff.1 hbind
  injection ha with hsalvaged hfirst
  have hmem : a ∈ (ofText s false t).annotations := by
    refine (annotations_ofLines_perm false (s.lines t)).mem_iff.2 ?_
    rw [hcons]
    exact List.mem_cons_self ..
  obtain ⟨hall, -, -, hdiagnostics⟩ := scan_conforms s false t
  have hconforms := hall a hmem
  have hlast : a.lastLine = 2 := by
    rw [hconforms.toLastLine hsalvaged, hlength]
    rfl
  have hblock : a.isBlock = true := by
    cases hb : a.isBlock with
    | true => rfl
    | false =>
        have hnot := (hconforms.inline hb).2.1
        rw [hsalvaged] at hnot
        cases hnot
  have hscope := hconforms.block hblock
  rw [hfirst, hlast] at hscope
  obtain ⟨d, hd, hkind, hline⟩ := hconforms.salvaged.1 hsalvaged
  exact ⟨a, hmem, hsalvaged, hscope, hlast, d, hd, hkind, hline,
    (hdiagnostics d hd).marked⟩

end Text

end Scan

end Marginalia
