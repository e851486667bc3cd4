/-
What it changes to have markers without a valid key reported. Such a line is
the same to the binding whether it is reported or not, so the annotations
stay as they are. The reports of a line are those that it has anyway, and
behind them the one that was asked for (`snd_readLine`); the sort is stable,
so leaving these out of a scan that has them gives the scan that never had
them, in the same order.
-/
import Marginalia.Proofs.Scan.Order
import Marginalia.Proofs.Scan.DataModel

namespace Marginalia

-- ======================================================== keyless lines

/-- The comment of a line that starts with `@!` and is no marker. -/
def Comment.Line.keyless? (l : Comment.Line) : Option Text :=
  l.content.filter fun content =>
    content.startsWith "@!" && (Marker.pieces? content).isNone

/-- The diagnostic of a line that starts like a marker and is none. -/
def Comment.Line.keylessReport? (l : Comment.Line) : Option Diagnostic :=
  l.keyless?.map fun content => ⟨l.number, .noKey content⟩

/-- Does the diagnostic say that a marker has no valid key? -/
def Diagnostic.isKeyless (d : Diagnostic) : Bool :=
  d.kind == .unrecognizedKeyCharset

/-- The binding reports nothing of the kind. -/
theorem Binding.isKeyless_of_mem_bind {events : List Event}
    {lastLine : LineNumber} {d : Diagnostic}
    (h : d ∈ (bind events lastLine).diagnostics) : d.isKeyless = false := by
  rw [bind_eq, Outcome.diagnostics_append] at h
  unfold Diagnostic.isKeyless
  rcases List.mem_append.1 h with h | h
  · rw [kind_of_mem_diagnostics_steps h]
    rfl
  · rw [diagnostics_finish (finished_steps ..)] at h
    rcases List.mem_append.1 h with h | h
    · split at h
      · cases h
      · obtain ⟨m, -, rfl⟩ := List.mem_map.1 h
        rfl
    · obtain ⟨m, -, rfl⟩ := List.mem_map.1 h
      rfl

namespace Scan

open Comment (Line)

variable {s : Comment.Style} {t : Text} {l : Line}

/-- A line of a text has no white space at the start of its content. -/
theorem isAnnotation_content (hl : l ∈ s.lines t) {content : Text}
    (hc : l.content = some content) :
    Marker.isAnnotation content = content.startsWith "@!" := by
  obtain ⟨block, hcontent, -⟩ := Comment.Style.exists_readLine_of_mem hl
  unfold Marker.isAnnotation
  rw [hcontent] at hc
  rw [Comment.Style.trimLeft_content hc]

/-- A line is reported as it is anyway, and as keyless on request. -/
theorem snd_readLine (report : Bool) (hl : l ∈ s.lines t) :
    (readLine report l).2 = (readLine false l).2
      ++ if report then l.keylessReport?.toList else [] := by
  unfold readLine Line.keylessReport? Line.keyless?
  cases hc : l.content with
  | none => cases report <;> rfl
  | some content =>
      have hstart := isAnnotation_content hl hc
      cases hp : Marker.pieces? content with
      | some p => cases report <;> simp [hp]
      | none =>
          cases ha : content.startsWith "@!" <;> cases report <;>
            simp [hp, hstart, ha, Option.filter]

/-- Without the request no line is reported as keyless. -/
theorem isKeyless_of_mem_readLine {d : Diagnostic}
    (h : d ∈ (readLine false l).2) : d.isKeyless = false := by
  unfold readLine at h
  cases hc : l.content with
  | none =>
      rw [hc] at h
      cases h
  | some content =>
      rw [hc] at h
      cases hp : Marker.pieces? content with
      | some p =>
          simp only [hp] at h
          obtain ⟨problem, -, rfl⟩ := List.mem_map.1 h
          cases problem <;> rfl
      | none =>
          simp only [hp] at h
          split at h <;> cases h

/-- What is reported as keyless is so. -/
theorem isKeyless_of_keylessReport? {d : Diagnostic}
    (h : l.keylessReport? = some d) : d.isKeyless = true := by
  obtain ⟨content, -, rfl⟩ := Option.map_eq_some_iff.1 h
  rfl

theorem line_of_keylessReport? {d : Diagnostic}
    (h : l.keylessReport? = some d) : d.line = l.number := by
  obtain ⟨content, -, rfl⟩ := Option.map_eq_some_iff.1 h
  rfl

-- ============================================================== reports

/-- What is reported of some lines of a text, without what was asked for and
nothing but that. -/
theorem filter_reports_true {lines : List Line} (h : lines ⊆ s.lines t) :
    (reports true lines).filter (!·.isKeyless) = reports false lines
      ∧ (reports true lines).filter (·.isKeyless)
        = lines.filterMap Line.keylessReport? := by
  induction lines with
  | nil => exact ⟨rfl, rfl⟩
  | cons l rest ih =>
      obtain ⟨hl, hrest⟩ := List.cons_subset.1 h
      obtain ⟨ihwithout, ihonly⟩ := ih hrest
      have hown := snd_readLine true hl
      rw [if_pos rfl] at hown
      have hanyway : ∀ d ∈ (readLine false l).2, d.isKeyless = false :=
        fun d hd => isKeyless_of_mem_readLine hd
      have hasked : ∀ d ∈ l.keylessReport?.toList, d.isKeyless = true :=
        fun d hd => isKeyless_of_keylessReport? (Option.mem_toList.1 hd)
      have hcons : ∀ report, reports report (l :: rest)
          = (readLine report l).2 ++ reports report rest := fun _ => rfl
      rw [hcons, hcons, hown]
      constructor
      · rw [List.filter_append, List.filter_append, ihwithout,
          List.filter_eq_self.2 fun d hd => by rw [hanyway d hd]; rfl,
          List.filter_eq_nil_iff.2 fun d hd => by rw [hasked d hd]; simp,
          List.append_nil]
      · rw [List.filter_append, List.filter_append, ihonly,
          List.filter_eq_nil_iff.2 fun d hd => by rw [hanyway d hd]; simp,
          List.filter_eq_self.2 hasked, List.nil_append,
          List.filterMap_cons]
        cases l.keylessReport? <;> rfl

/-- The lines that are reported as keyless come in order. -/
theorem pairwise_keylessReports (s : Comment.Style) (t : Text) :
    ((s.lines t).filterMap Line.keylessReport?).Pairwise
      fun a b => byLine a b = true := by
  refine List.pairwise_filterMap.2 ((lines_ordered s t).imp ?_)
  intro l l' hlt d hd d' hd'
  unfold byLine
  rw [line_of_keylessReport? hd, line_of_keylessReport? hd']
  exact decide_eq_true (Int.le_of_lt hlt)

/-- Having markers without a valid key reported adds to the diagnostics and
changes nothing else. The annotations are the same. Without what is added,
the diagnostics are those of a scan that was not asked, in the same order.
And what is added is one diagnostic for each line whose comment starts with
`@!` and is no marker, in the order of the lines, on that line and with its
comment. -/
theorem report_adds_keyless (s : Comment.Style) (t : Text) :
    (ofText s true t).annotations = (ofText s false t).annotations
      ∧ (ofText s true t).diagnostics.filter
          (·.kind != .unrecognizedKeyCharset)
        = (ofText s false t).diagnostics
      ∧ (ofText s true t).diagnostics.filter
          (·.kind == .unrecognizedKeyCharset)
        = (s.lines t).filterMap Line.keylessReport? := by
  have hbound : ∀ d ∈ (Binding.bind ((s.lines t).map eventOf)
      (s.lines t).length).diagnostics, d.isKeyless = false :=
    fun d hd => Binding.isKeyless_of_mem_bind hd
  obtain ⟨hwithout, honly⟩ := filter_reports_true (List.Subset.refl (s.lines t))
  refine ⟨?_, ?_, ?_⟩
  · exact (annotations_ofLines true _).trans (annotations_ofLines false _).symm
  · show (ofLines true (s.lines t)).diagnostics.filter (!·.isKeyless)
      = (ofLines false (s.lines t)).diagnostics
    rw [diagnostics_ofLines, diagnostics_ofLines,
      totalPreorder_byLine.filter_mergeSort, List.filter_append, hwithout,
      List.filter_eq_self.2 fun d hd => by rw [hbound d hd]; rfl]
  · show (ofLines true (s.lines t)).diagnostics.filter (·.isKeyless) = _
    rw [diagnostics_ofLines, totalPreorder_byLine.filter_mergeSort,
      List.filter_append, honly,
      List.filter_eq_nil_iff.2 fun d hd => by rw [hbound d hd]; simp,
      List.append_nil]
    exact List.mergeSort_of_pairwise (pairwise_keylessReports s t)

end Scan

end Marginalia
