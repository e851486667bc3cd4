/-
What the binding of markers does not look at. A file may be recast: its
lines get other numbers, its markers other payloads, its lines other texts.
As long as keys and forms of markers stay and idle lines stay idle, binding
the recast file is binding the file and recasting what comes out of it
(`bind_recast`). So the numbers only pass through, and no payload decides
what anything is bound to.

Two ways to recast a file are of use: giving its lines other numbers
(`renumber`), and leaving nothing of them but the outline that binding goes
by (`outline`).
-/
import Marginalia.Proofs.Binding.Run
import Marginalia.Proofs.Comment.Lines

namespace Marginalia

-- ============================================================== recasting

/-- A way to recast a file: what becomes of the numbers of its lines, of the
payloads of its markers, and of the texts of its lines. A line is recast so
that it has the new number and the new text, and is idle if it was. -/
structure Recast where
  number : LineNumber → LineNumber
  payload : Marker.Payload → Marker.Payload
  text : Text → Text
  line : Comment.Line → Comment.Line
  number_line : ∀ l, (line l).number = number l.number
  raw_line : ∀ l, (line l).raw = text l.raw
  isIdle_line : ∀ l, (line l).isIdle = l.isIdle

namespace Recast

/-- Other numbers for the lines of a file, and nothing else. -/
def renumber (f : LineNumber → LineNumber) : Recast where
  number := f
  payload p := p
  text t := t
  line := .renumber f
  number_line _ := rfl
  raw_line _ := rfl
  isIdle_line _ := rfl

/-- Nothing but the outline of a file: the keys of its markers, and which
lines are idle. -/
def outline : Recast where
  number n := n
  payload _ := .empty
  text _ := []
  line l := ⟨l.number, none, [], !l.isIdle⟩
  number_line _ := rfl
  raw_line _ := rfl
  isIdle_line l := by simp [Comment.Line.isIdle]

variable (r : Recast)

/-- A marker of the recast file. -/
def markerOf (m : Marker) : Marker :=
  ⟨r.number m.line, m.key, r.payload m.payload⟩

/-- A scope in the recast file. -/
def scopeOf : Scope → Scope
  | .file n => .file (r.number n)
  | .declaration n t => .declaration (r.number n) (r.text t)
  | .region first last => .region (r.number first) (r.number last)
  | .trailing n => .trailing (r.number n)

/-- An annotation of the recast file. -/
def annotationOf (a : Annotation) : Annotation :=
  ⟨r.markerOf a.marker, r.scopeOf a.scope, a.salvaged⟩

/-- A diagnostic of the recast file. -/
def diagnosticOf (d : Diagnostic) : Diagnostic := ⟨r.number d.line, d.cause⟩

theorem firstLine_annotationOf (a : Annotation) :
    (r.annotationOf a).firstLine = r.number a.firstLine := rfl

theorem anchor_annotationOf (a : Annotation) :
    (r.annotationOf a).anchor = r.number a.anchor := by
  obtain ⟨m, scope, salvaged⟩ := a
  cases scope <;> rfl

end Recast

namespace Binding

variable (r : Recast)

/-- A line of the recast file, as it is fed. -/
def Event.recast : Event → Event
  | .inline m => .inline (r.markerOf m)
  | .blockBegin m => .blockBegin (r.markerOf m)
  | .blockEnd n key => .blockEnd (r.number n) key
  | .unrecognized => .unrecognized
  | .line l => .line (r.line l)

/-- The state between two lines of the recast file. -/
def State.recast (s : State) : State :=
  { s with
    stack := s.stack.map r.markerOf
    waiting := s.waiting.map r.markerOf }

/-- What the recast file brings. -/
def Outcome.recast (o : Outcome) : Outcome :=
  ⟨o.annotations.map r.annotationOf, o.diagnostics.map r.diagnosticOf⟩

theorem Outcome.recast_append (o o' : Outcome) :
    (o ++ o').recast r = o.recast r ++ o'.recast r := by
  unfold Outcome.recast
  rw [annotations_append, diagnostics_append, List.map_append, List.map_append]
  rfl

-- =============================================================== one line

/-- Recasting leaves open blocks in their order and with their keys. -/
theorem takeNearest?_recast (key : Text) (stack : List Marker) :
    takeNearest? key (stack.map r.markerOf)
      = (takeNearest? key stack).map fun found =>
          (r.markerOf found.1, found.2.map r.markerOf) := by
  induction stack with
  | nil => rfl
  | cons m rest ih =>
      rw [List.map_cons, takeNearest?, takeNearest?, ih]
      show (if m.key = key then _ else _) = _
      split
      · rfl
      · cases takeNearest? key rest <;> rfl

theorem closeBlock_recast (s : State) (line : LineNumber) (key : Text) :
    closeBlock (s.recast r) (r.number line) key
      = ((closeBlock s line key).1.recast r,
          (closeBlock s line key).2.recast r) := by
  have htake := takeNearest?_recast r key s.stack
  unfold closeBlock
  rw [show (s.recast r).stack = s.stack.map r.markerOf from rfl, htake]
  cases takeNearest? key s.stack with
  | some found => rfl
  | none =>
      -- the keys of the open blocks are part of the message
      have hkeys : (s.stack.map r.markerOf).map (·.key)
          = s.stack.map (·.key) := by
        rw [List.map_map]
        rfl
      rw [Option.map_none]
      simp only [hkeys]
      rfl

theorem bindTo_recast (s : State) (l : Comment.Line) :
    bindTo (s.recast r) (r.line l)
      = ((bindTo s l).1.recast r, (bindTo s l).2.recast r) := by
  unfold bindTo Outcome.recast
  rw [r.number_line, r.raw_line]
  simp only [State.recast, List.map_map]
  rfl

/-- One line of the recast file does what the line does. -/
theorem step_recast (s : State) (e : Event) :
    step (s.recast r) (e.recast r)
      = ((step s e).1.recast r, (step s e).2.recast r) := by
  cases e with
  | inline m =>
      have hempty : (s.waiting.map r.markerOf).isEmpty = s.waiting.isEmpty := by
        cases s.waiting <;> rfl
      simp only [step, Event.recast, State.recast, hempty, List.map_append]
      rfl
  | blockBegin m => rfl
  | blockEnd line key => exact closeBlock_recast r s line key
  | unrecognized => rfl
  | line l =>
      cases h : l.isIdle with
      | true =>
          have h' : (r.line l).isIdle = true := by rw [r.isIdle_line, h]
          rw [step_idle h]
          exact step_idle h' _
      | false =>
          have h' : (r.line l).isIdle = false := by rw [r.isIdle_line, h]
          rw [step_content h]
          exact (step_content h' _).trans (bindTo_recast r s l)

-- ============================================================ whole files

/-- All lines of the recast file do what the lines do. -/
theorem steps_recast (s : State) (events : List Event) :
    steps (s.recast r) (events.map (·.recast r))
      = ((steps s events).1.recast r, (steps s events).2.recast r) := by
  induction events generalizing s with
  | nil => rfl
  | cons e rest ih =>
      rw [List.map_cons, steps_cons, step_recast, ih, steps_cons,
        Outcome.recast_append]

/-- The end of the recast file does what the end does, when the number of
lines is recast with the lines. -/
theorem finish_recast {s : State} (h : s.finished = false)
    {lastLine lastLine' : LineNumber}
    (hlast : max lastLine' 1 = r.number (max lastLine 1)) :
    (finish (s.recast r) lastLine').2 = (finish s lastLine).2.recast r := by
  have h' : (s.recast r).finished = false := h
  have hscope : r.scopeOf (leftoverScope s.waitingFromStart (max lastLine 1))
      = leftoverScope s.waitingFromStart (max lastLine' 1) := by
    rw [hlast]
    cases s.waitingFromStart <;> rfl
  have hannotations : (finish (s.recast r) lastLine').2.annotations
      = ((finish s lastLine).2.recast r).annotations := by
    show _ = (finish s lastLine).2.annotations.map r.annotationOf
    rw [annotations_finish h, annotations_finish h', List.map_append,
      List.map_map, List.map_map]
    simp only [State.recast, ← List.map_reverse, List.map_map]
    congr 1
    · refine List.map_congr_left fun m _ => ?_
      simp only [Function.comp_apply, Recast.annotationOf, hscope]
    · refine List.map_congr_left fun m _ => ?_
      simp only [Function.comp_apply, Recast.annotationOf, Recast.scopeOf,
        hlast]
      rfl
  have hdiagnostics : (finish (s.recast r) lastLine').2.diagnostics
      = ((finish s lastLine).2.recast r).diagnostics := by
    show _ = (finish s lastLine).2.diagnostics.map r.diagnosticOf
    rw [diagnostics_finish h, diagnostics_finish h', List.map_append]
    simp only [State.recast, ← List.map_reverse, List.map_map]
    congr 1
    cases s.waitingFromStart with
    | true => rfl
    | false =>
        rw [if_neg Bool.false_ne_true, if_neg Bool.false_ne_true,
          List.map_map]
        rfl
  exact Outcome.ext hannotations hdiagnostics

/-- Binding a recast file is recasting what the file is bound to. -/
theorem bind_recast (events : List Event) {lastLine lastLine' : LineNumber}
    (hlast : max lastLine' 1 = r.number (max lastLine 1)) :
    bind (events.map (·.recast r)) lastLine'
      = (bind events lastLine).recast r := by
  have hsteps := steps_recast r .start events
  rw [show State.start.recast r = .start from rfl] at hsteps
  rw [bind_eq, bind_eq, hsteps, Outcome.recast_append,
    finish_recast r (finished_steps ..) hlast]

end Binding

end Marginalia
