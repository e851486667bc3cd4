/-
What the lines of a text are for the binding. Whether an unknown key is
reported makes no difference here, so every line stands for one event; the
kinds of lines that scopes depend on are read off that event.
-/
import Marginalia.Scan
import Marginalia.Proofs.Binding.Targets

namespace Marginalia

-- ======================================================== kinds of lines

namespace Comment.Line

/-- The pieces of the marker on a line, if its comment is one. -/
def pieces? (l : Line) : Option Marker.Pieces :=
  l.content.bind Marker.pieces?

/-- Does the comment on the line start like a marker? Such a line is an
annotation line, whether a key follows or not. -/
def isMarked (l : Line) : Bool := l.content.any Marker.isAnnotation

/-- Is this a line with content: neither idle nor an annotation line? -/
def isContent (l : Line) : Bool := !l.isMarked && !l.isIdle

/-- Is there an inline marker on the line? -/
def isInline (l : Line) : Bool :=
  l.pieces?.any fun p => p.kind == .inline

theorem isInline_iff {l : Line} :
    l.isInline = true ↔ ∃ p, l.pieces? = some p ∧ p.kind = .inline := by
  unfold isInline
  cases l.pieces? with
  | none => simp
  | some p => simp

/-- A marker makes its line an annotation line. -/
theorem isMarked_of_pieces? {l : Line} {p : Marker.Pieces}
    (h : l.pieces? = some p) : l.isMarked = true := by
  obtain ⟨content, hc, hp⟩ := Option.bind_eq_some_iff.1 h
  unfold Marker.pieces? at hp
  split at hp
  case isTrue ha =>
    unfold isMarked
    rw [hc]
    exact ha
  case isFalse => cases hp

end Comment.Line

-- =============================================================== events

namespace Scan

open Comment (Line)
open Marker (Pieces)

/-- The decoded marker of a line with these pieces. -/
def markerAt (l : Line) (p : Pieces) : Marker := ⟨l.number, p.key, p.decode.1⟩

/-- What a line is for the binding. -/
def eventOf (l : Line) : Binding.Event := (readLine false l).1

/-- Reporting unknown keys does not change what a line is. -/
theorem fst_readLine (report : Bool) (l : Line) :
    (readLine report l).1 = eventOf l := by
  unfold eventOf readLine
  cases l.content with
  | none => rfl
  | some content =>
      cases hp : Marker.pieces? content with
      | some p => simp only [hp]
      | none =>
          simp only [hp]
          split <;> rfl

/-- The event of a line by its kind. -/
theorem eventOf_eq (l : Line) :
    eventOf l = match l.pieces? with
      | some p =>
        match p.kind with
        | .inline => .inline (markerAt l p)
        | .blockBegin => .blockBegin (markerAt l p)
        | .blockEnd => .blockEnd l.number p.key
      | none => if l.isMarked then .unrecognized else .line l := by
  unfold eventOf readLine Line.pieces? Line.isMarked
  cases l.content with
  | none => rfl
  | some content =>
      rw [Option.bind_some, Option.any_some]
      cases hp : Marker.pieces? content with
      | some p => simp only [hp]; rfl
      | none =>
          simp only [hp]
          split <;> rfl

/-- The event of a line with an inline marker. -/
theorem eventOf_inline {l : Line} {p : Pieces} (hp : l.pieces? = some p)
    (hk : p.kind = .inline) : eventOf l = .inline (markerAt l p) := by
  rw [eventOf_eq, hp]
  simp only [hk]

/-- Only a line with an inline marker is an inline event. -/
theorem isInline_of_eventOf {l : Line} {m : Marker}
    (h : eventOf l = .inline m) :
    l.isInline = true ∧ m.line = l.number := by
  rw [eventOf_eq] at h
  cases hp : l.pieces? with
  | none =>
      rw [hp] at h
      simp only at h
      split at h <;> cases h
  | some p =>
      rw [hp] at h
      simp only at h
      split at h
      next hk =>
        injection h with h
        rw [← h]
        exact ⟨by simp [Line.isInline, hp, hk], rfl⟩
      next => cases h
      next => cases h

/-- Lines with content are exactly those that inline markers are bound
to. -/
theorem content?_eventOf (l : Line) :
    (eventOf l).content? = if l.isContent then some l else none := by
  rw [eventOf_eq]
  cases hp : l.pieces? with
  | some p =>
      have hm := Line.isMarked_of_pieces? hp
      have hc : l.isContent = false := by simp [Line.isContent, hm]
      simp only [hc]
      cases p.kind <;> rfl
  | none =>
      cases hm : l.isMarked with
      | true => simp [Line.isContent, hm, Binding.Event.content?]
      | false =>
          cases hi : l.isIdle <;>
            simp [Line.isContent, hm, hi, Binding.Event.content?]

/-- The lines that change nothing are those that are neither annotation
lines nor lines with content. -/
theorem isIdle_eventOf (l : Line) :
    (eventOf l).isIdle = (!l.isMarked && !l.isContent) := by
  rw [eventOf_eq]
  cases hp : l.pieces? with
  | some p =>
      simp only [Line.isMarked_of_pieces? hp]
      cases p.kind <;> rfl
  | none =>
      cases hm : l.isMarked with
      | true => simp [Binding.Event.isIdle]
      | false =>
          cases hi : l.isIdle <;>
            simp [Line.isContent, hm, hi, Binding.Event.isIdle]

/-- The target after some lines is the first line with content. -/
theorem nextContent?_map_eventOf (lines : List Line) :
    Binding.nextContent? (lines.map eventOf)
      = lines.find? (·.isContent) := by
  unfold Binding.nextContent?
  induction lines with
  | nil => rfl
  | cons l rest ih =>
      rw [List.map_cons, List.findSome?_cons, content?_eventOf,
        List.find?_cons, ih]
      cases l.isContent <;> rfl

/-- The inline markers among some lines stand on these lines. -/
theorem exists_of_mem_targets {lines : List Line}
    {b : Marker × Option Line}
    (h : b ∈ Binding.targets (lines.map eventOf)) :
    ∃ l ∈ lines, l.isInline = true ∧ b.1.line = l.number := by
  induction lines with
  | nil => cases h
  | cons l rest ih =>
      rw [List.map_cons] at h
      cases he : eventOf l with
      | inline m =>
          rw [he] at h
          rcases List.mem_cons.1 h with rfl | h
          · have hm := isInline_of_eventOf he
            exact ⟨l, List.mem_cons_self .., hm.1, hm.2⟩
          · obtain ⟨l', hl', hr⟩ := ih h
            exact ⟨l', List.mem_cons_of_mem _ hl', hr⟩
      | blockBegin _ | blockEnd _ _ | unrecognized | line _ =>
          rw [he] at h
          obtain ⟨l', hl', hr⟩ := ih h
          exact ⟨l', List.mem_cons_of_mem _ hl', hr⟩

-- ========================================================== whole scans

/-- A scan puts in order what its lines are bound to, and what is reported
of each line and of binding them. -/
theorem ofLines_eq (report : Bool) (lines : List Line) :
    ofLines report lines
      = ⟨(Binding.bind (lines.map eventOf) lines.length).annotations.mergeSort
            before,
          (lines.flatMap (fun l => (readLine report l).2)
            ++ (Binding.bind (lines.map eventOf) lines.length).diagnostics
            ).mergeSort fun a b => a.line ≤ b.line⟩ := by
  have hread : (lines.map (readLine report)).map (·.1)
      = lines.map eventOf := by
    rw [List.map_map]
    exact List.map_congr_left fun l _ => fst_readLine report l
  simp only [ofLines, hread, List.flatMap_map]

/-- The annotations of a scan are those that its lines are bound to. -/
theorem annotations_ofLines_perm (report : Bool) (lines : List Line) :
    (ofLines report lines).annotations.Perm
      (Binding.bind (lines.map eventOf) lines.length).annotations := by
  rw [ofLines_eq]
  exact List.mergeSort_perm ..

/-- The diagnostics of a scan are those of its lines and those of binding
them. -/
theorem diagnostics_ofLines_perm (report : Bool) (lines : List Line) :
    (ofLines report lines).diagnostics.Perm
      (lines.flatMap (fun l => (readLine report l).2)
        ++ (Binding.bind (lines.map eventOf) lines.length).diagnostics) := by
  rw [ofLines_eq]
  exact List.mergeSort_perm ..

/-- What is reported of a line by itself: a piece that cannot be decoded, or
a key that is none. -/
theorem cause_of_mem_readLine {report : Bool} {l : Line} {d : Diagnostic}
    (h : d ∈ (readLine report l).2) :
    d.line = l.number
      ∧ ((∃ p, d.cause = .payload p)
        ∨ ∃ content, d.cause = .noKey content) := by
  unfold readLine at h
  cases hc : l.content with
  | none =>
      rw [hc] at h
      cases h
  | some content =>
      rw [hc] at h
      cases hp : Marker.pieces? content with
      | some p =>
          simp only [hp] at h
          obtain ⟨problem, -, rfl⟩ := List.mem_map.1 h
          exact ⟨rfl, Or.inl ⟨problem, rfl⟩⟩
      | none =>
          simp only [hp] at h
          split at h
          · cases report with
            | false => cases h
            | true =>
                rw [List.mem_singleton.1 h]
                exact ⟨rfl, Or.inr ⟨content, rfl⟩⟩
          · cases h

end Scan

end Marginalia
