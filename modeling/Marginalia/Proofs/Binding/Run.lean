/-
Runs of the binding. A run over two stretches of lines is a run over the
first and then one over the second, so a fact about a whole file follows
from what a single line does to the state.

Three things are read off a run here: which of the outcome's annotations
are inline ones and which are blocks, whether anything but idle lines was
met, and what the end of the file adds. What becomes of inline markers is
in `Targets`, what becomes of blocks in `KeyStack`.
-/
import Marginalia.Binding

namespace Marginalia.Binding

-- ============================================================= outcomes

namespace Outcome

/-- An outcome is what it has of annotations and of diagnostics. -/
theorem ext {a b : Outcome} (hannotations : a.annotations = b.annotations)
    (hdiagnostics : a.diagnostics = b.diagnostics) : a = b := by
  cases a
  cases b
  cases hannotations
  cases hdiagnostics
  rfl

@[simp] theorem annotations_append (a b : Outcome) :
    (a ++ b).annotations = a.annotations ++ b.annotations := rfl

@[simp] theorem diagnostics_append (a b : Outcome) :
    (a ++ b).diagnostics = a.diagnostics ++ b.diagnostics := rfl

@[simp] theorem diagnostics_nothing : nothing.diagnostics = [] := rfl

theorem append_nothing (a : Outcome) : a ++ nothing = a :=
  ext (List.append_nil _) (List.append_nil _)

theorem nothing_append (a : Outcome) : nothing ++ a = a := rfl

/-- The annotations of outcomes in order. -/
theorem annotations_concat (outcomes : List Outcome) :
    (concat outcomes).annotations = outcomes.flatMap (·.annotations) := by
  induction outcomes with
  | nil => rfl
  | cons o rest ih =>
      rw [List.flatMap_cons, ← ih]
      rfl

/-- The diagnostics of outcomes in order. -/
theorem diagnostics_concat (outcomes : List Outcome) :
    (concat outcomes).diagnostics = outcomes.flatMap (·.diagnostics) := by
  induction outcomes with
  | nil => rfl
  | cons o rest ih =>
      rw [List.flatMap_cons, ← ih]
      rfl

/-- The inline annotations of an outcome. -/
def inlines (o : Outcome) : List Annotation :=
  o.annotations.filter fun a => !a.isBlock

/-- The blocks of an outcome. -/
def blocks (o : Outcome) : List Annotation := o.annotations.filter (·.isBlock)

@[simp] theorem inlines_append (a b : Outcome) :
    (a ++ b).inlines = a.inlines ++ b.inlines := by
  unfold inlines
  rw [annotations_append, List.filter_append]

@[simp] theorem blocks_append (a b : Outcome) :
    (a ++ b).blocks = a.blocks ++ b.blocks := by
  unfold blocks
  rw [annotations_append, List.filter_append]

@[simp] theorem blocks_nothing : nothing.blocks = [] := rfl

end Outcome

-- ================================================================= runs

/-- A run over a first line and the rest. -/
theorem steps_cons (s : State) (e : Event) (rest : List Event) :
    steps s (e :: rest)
      = ((steps (step s e).1 rest).1,
          (step s e).2 ++ (steps (step s e).1 rest).2) := rfl

/-- Outcomes are joined in any grouping. -/
theorem append_assoc (a b c : Outcome) : a ++ b ++ c = a ++ (b ++ c) := by
  show Outcome.mk _ _ = Outcome.mk _ _
  rw [Outcome.annotations_append, Outcome.diagnostics_append,
    List.append_assoc, List.append_assoc]
  rfl

/-- A run over two stretches of lines. -/
theorem steps_append (s : State) (first rest : List Event) :
    steps s (first ++ rest)
      = ((steps (steps s first).1 rest).1,
          (steps s first).2 ++ (steps (steps s first).1 rest).2) := by
  induction first generalizing s with
  | nil => rfl
  | cons e first ih =>
      rw [List.cons_append, steps_cons, ih, steps_cons]
      simp only [append_assoc]

/-- What a whole file brings: what its lines bring, then what its end
brings. -/
theorem bind_eq (events : List Event) (lastLine : LineNumber) :
    bind events lastLine
      = (steps .start events).2
        ++ (finish (steps .start events).1 lastLine).2 := rfl

/-- An end marker either closes the nearest block with its key or is
reported; the markers that wait are not touched. -/
theorem closeBlock_cases (s : State) (line : LineNumber) (key : Text) :
    (∃ m left, takeNearest? key s.stack = some (m, left)
        ∧ closeBlock s line key
          = ({ s with stack := left, seenContent := true },
              ⟨[⟨m, .region m.line line, false⟩], []⟩))
      ∨ (takeNearest? key s.stack = none
        ∧ closeBlock s line key
          = ({ s with seenContent := true },
              ⟨[], [⟨line, .unmatchedEnd key (s.stack.map (·.key))⟩]⟩)) := by
  unfold closeBlock
  cases h : takeNearest? key s.stack with
  | none => exact Or.inr ⟨rfl, rfl⟩
  | some found => exact Or.inl ⟨found.1, found.2, rfl, rfl⟩

/-- An idle line changes nothing. -/
theorem step_idle {l : Comment.Line} (h : l.isIdle = true) (s : State) :
    step s (.line l) = (s, .nothing) := by
  show (if l.isIdle then (s, Outcome.nothing) else bindTo s l) = _
  rw [if_pos h]

/-- A line with content binds the markers that wait. -/
theorem step_content {l : Comment.Line} (h : l.isIdle = false) (s : State) :
    step s (.line l) = bindTo s l := by
  show (if l.isIdle then (s, Outcome.nothing) else bindTo s l) = _
  rw [if_neg (by simp [h])]

/-- No line ends the file. -/
theorem finished_step (s : State) (e : Event) :
    (step s e).1.finished = s.finished := by
  cases e with
  | inline m => rfl
  | blockBegin m => rfl
  | blockEnd line key =>
      show (closeBlock s line key).1.finished = _
      rcases closeBlock_cases s line key with ⟨m, left, -, h⟩ | ⟨-, h⟩
      · rw [h]
      · rw [h]
  | unrecognized => rfl
  | line l =>
      cases h : l.isIdle with
      | true => rw [step_idle h]
      | false => rw [step_content h]; rfl

/-- No run of lines ends the file. -/
theorem finished_steps (s : State) (events : List Event) :
    (steps s events).1.finished = s.finished := by
  induction events generalizing s with
  | nil => rfl
  | cons e rest ih => rw [steps_cons, ih, finished_step]

/-- The annotations of markers that are bound are inline ones. -/
theorem inlines_bindTo (s : State) (l : Comment.Line) :
    (bindTo s l).2.inlines
      = s.waiting.map fun m => ⟨m, .declaration l.number l.raw, false⟩ := by
  unfold Outcome.inlines
  refine List.filter_eq_self.2 fun a ha => ?_
  obtain ⟨m, -, rfl⟩ := List.mem_map.1 ha
  rfl

/-- Binding inline markers brings no blocks. -/
theorem blocks_bindTo (s : State) (l : Comment.Line) :
    (bindTo s l).2.blocks = [] := by
  refine List.filter_eq_nil_iff.2 fun a ha => ?_
  obtain ⟨m, -, rfl⟩ := List.mem_map.1 ha
  exact Bool.false_ne_true

-- ============================================================== content

/-- Is this an idle line? Such a line changes nothing. -/
def Event.isIdle : Event → Bool
  | .line l => l.isIdle
  | _ => false

/-- Every line that is not idle counts as content from then on. -/
theorem seenContent_step (s : State) (e : Event) :
    (step s e).1.seenContent = (s.seenContent || !e.isIdle) := by
  cases e with
  | inline m => simp [step, Event.isIdle]
  | blockBegin m => simp [step, Event.isIdle]
  | blockEnd line key =>
      show (closeBlock s line key).1.seenContent = _
      rcases closeBlock_cases s line key with ⟨m, left, -, h⟩ | ⟨-, h⟩
      · rw [h]; simp [Event.isIdle]
      · rw [h]; simp [Event.isIdle]
  | unrecognized => simp [step, Event.isIdle]
  | line l =>
      cases h : l.isIdle with
      | true => rw [step_idle h]; simp [Event.isIdle, h]
      | false => rw [step_content h]; simp [bindTo, Event.isIdle, h]

/-- A run has met content when one of its lines was not idle. -/
theorem seenContent_steps (s : State) (events : List Event) :
    (steps s events).1.seenContent
      = (s.seenContent || events.any fun e => !e.isIdle) := by
  induction events generalizing s with
  | nil => simp [steps]
  | cons e rest ih =>
      rw [steps_cons, ih, seenContent_step, List.any_cons, Bool.or_assoc]

-- ========================================================== diagnostics

/-- While lines are read, what is reported is an end marker, on its line. -/
theorem blockEnd_of_mem_diagnostics_steps {s : State} {events : List Event}
    {d : Diagnostic} (h : d ∈ (steps s events).2.diagnostics) :
    ∃ key openKeys, .blockEnd d.line key ∈ events
      ∧ d.cause = .unmatchedEnd key openKeys := by
  induction events generalizing s with
  | nil => cases h
  | cons e rest ih =>
      rw [steps_cons, Outcome.diagnostics_append] at h
      rcases List.mem_append.1 h with hd | hd
      · cases e with
        | inline m => cases hd
        | blockBegin m => cases hd
        | blockEnd line key =>
            have hd' : d ∈ (closeBlock s line key).2.diagnostics := hd
            rcases closeBlock_cases s line key with ⟨m, left, -, hc⟩ | ⟨-, hc⟩
            · rw [hc] at hd'
              cases hd'
            · rw [hc] at hd'
              rw [List.mem_singleton.1 hd']
              exact ⟨key, _, List.mem_cons_self .., rfl⟩
        | unrecognized => cases hd
        | line l =>
            cases hl : l.isIdle with
            | true => rw [step_idle hl] at hd; cases hd
            | false => rw [step_content hl] at hd; cases hd
      · obtain ⟨key, openKeys, hmem, hcause⟩ := ih hd
        exact ⟨key, openKeys, List.mem_cons_of_mem _ hmem, hcause⟩

/-- While lines are read, only end markers are reported. -/
theorem kind_of_mem_diagnostics_steps {s : State} {events : List Event}
    {d : Diagnostic} (h : d ∈ (steps s events).2.diagnostics) :
    d.kind = .unmatchedEnd := by
  obtain ⟨key, openKeys, -, hcause⟩ := blockEnd_of_mem_diagnostics_steps h
  unfold Diagnostic.kind
  rw [hcause]
  rfl

-- ========================================================== end of file

/-- The scope of the inline markers that still wait at the end. -/
def leftoverScope (fromStart : Bool) (lastLine : LineNumber) : Scope :=
  if fromStart then .file lastLine else .trailing lastLine

/-- A marker that waits at the end is annotated with the common scope. -/
theorem annotations_settle (fromStart : Bool) (lastLine : LineNumber)
    (m : Marker) :
    (settle fromStart lastLine m).annotations
      = [⟨m, leftoverScope fromStart lastLine, false⟩] := by
  cases fromStart <;> rfl

/-- A block that is open at the end is salvaged up to the last line. -/
theorem annotations_salvage (lastLine : LineNumber) (m : Marker) :
    (salvage lastLine m).annotations
      = [⟨m, .region m.line lastLine, true⟩] := rfl

theorem diagnostics_salvage (lastLine : LineNumber) (m : Marker) :
    (salvage lastLine m).diagnostics = [⟨m.line, .unclosedBlock m.key⟩] := rfl

/-- What the end of a file of so many lines brings: the waiting markers
with their common scope, then the open blocks, the outermost first. -/
theorem annotations_finish {s : State} (h : s.finished = false)
    (lastLine : LineNumber) :
    (finish s lastLine).2.annotations
      = s.waiting.map
          (⟨·, leftoverScope s.waitingFromStart (max lastLine 1), false⟩)
        ++ s.stack.reverse.map
          fun m => ⟨m, .region m.line (max lastLine 1), true⟩ := by
  unfold finish
  rw [h]
  simp only [Bool.false_eq_true, if_false, Outcome.annotations_append,
    Outcome.annotations_concat, List.flatMap_map, annotations_settle,
    annotations_salvage]
  rw [← List.map_eq_flatMap, ← List.map_eq_flatMap]

/-- The scope that markers share at the end of a file is no region. -/
theorem isBlock_leftover (m : Marker) (fromStart : Bool)
    (lastLine : LineNumber) :
    (⟨m, leftoverScope fromStart lastLine, false⟩ : Annotation).isBlock
      = false := by
  cases fromStart <;> rfl

/-- The inline annotations that the end of a file brings: the markers that
wait. -/
theorem inlines_finish {s : State} (h : s.finished = false)
    (lastLine : LineNumber) :
    (finish s lastLine).2.inlines
      = s.waiting.map
          (⟨·, leftoverScope s.waitingFromStart (max lastLine 1), false⟩) := by
  unfold Outcome.inlines
  rw [annotations_finish h, List.filter_append, List.filter_eq_self.2,
    List.filter_eq_nil_iff.2, List.append_nil]
  · intro a ha
    obtain ⟨m, -, rfl⟩ := List.mem_map.1 ha
    exact Bool.false_ne_true
  · intro a ha
    obtain ⟨m, -, rfl⟩ := List.mem_map.1 ha
    rw [isBlock_leftover]
    rfl

/-- The blocks that the end of a file brings: those that are open. -/
theorem blocks_finish {s : State} (h : s.finished = false)
    (lastLine : LineNumber) :
    (finish s lastLine).2.blocks
      = s.stack.reverse.map
          fun m => ⟨m, .region m.line (max lastLine 1), true⟩ := by
  unfold Outcome.blocks
  rw [annotations_finish h, List.filter_append, List.filter_eq_nil_iff.2,
    List.filter_eq_self.2, List.nil_append]
  · intro a ha
    obtain ⟨m, -, rfl⟩ := List.mem_map.1 ha
    rfl
  · intro a ha
    obtain ⟨m, -, rfl⟩ := List.mem_map.1 ha
    rw [isBlock_leftover]
    exact Bool.false_ne_true

/-- What the end of a file reports: the waiting markers unless nothing came
before the first of them, then the open blocks. -/
theorem diagnostics_finish {s : State} (h : s.finished = false)
    (lastLine : LineNumber) :
    (finish s lastLine).2.diagnostics
      = (if s.waitingFromStart then []
          else s.waiting.map fun m => ⟨m.line, .dangling m.key⟩)
        ++ s.stack.reverse.map fun m => ⟨m.line, .unclosedBlock m.key⟩ := by
  unfold finish
  rw [h]
  simp only [Bool.false_eq_true, if_false, Outcome.diagnostics_append,
    Outcome.diagnostics_concat, List.flatMap_map, diagnostics_salvage]
  rw [← List.map_eq_flatMap]
  congr 1
  cases s.waitingFromStart with
  | true => exact List.flatMap_eq_nil_iff.2 fun m _ => rfl
  | false =>
      rw [if_neg Bool.false_ne_true, List.map_eq_flatMap]
      rfl

end Marginalia.Binding
