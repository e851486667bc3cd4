/-
Files that are put together from two stretches of lines.

What the first stretch brings while its lines are read is brought by the
whole file too, and first of all (`bind_append`); only what its end would
add depends on the lines that follow. Where nothing waits and nothing is
open at the cut, the second stretch is bound as if it were a file of its
own (`bind_closed`). The one thing that is carried over the cut then is
that there was something before, and this shows in no more than the scope
of markers that apply to a whole file. An idle line may stand anywhere
between the two (`bind_idle`).
-/
import Marginalia.Proofs.Binding.Placement

namespace Marginalia

-- ================================================================= views

/-- The annotation of a marker that has found its target, or of a block
whose end marker was met. What follows in the file does not change it. -/
def Annotation.isFixed (a : Annotation) : Bool :=
  match a.scope with
  | .declaration .. => true
  | .region .. => !a.salvaged
  | .file _ | .trailing _ => false

/-- A diagnostic that the end of the file has no part in. -/
def Diagnostic.isFixed (d : Diagnostic) : Bool :=
  d.kind != .unclosedBlock && d.kind != .dangling

namespace Binding

variable {s t : State} {events first rest : List Event} {lastLine : LineNumber}

-- ============================================================ open cuts

/-- A file begins with what its first lines bring. -/
theorem bind_append (first rest : List Event) (lastLine : LineNumber) :
    bind (first ++ rest) lastLine
      = (steps .start first).2
        ++ ((steps (steps .start first).1 rest).2
          ++ (finish (steps (steps .start first).1 rest).1 lastLine).2) := by
  rw [bind_eq, steps_append, append_assoc]

/-- The annotations that are fixed are those that the lines bring. -/
theorem filter_isFixed_annotations (events : List Event)
    (lastLine : LineNumber) :
    (bind events lastLine).annotations.filter (·.isFixed)
      = (steps .start events).2.annotations := by
  have hread : ∀ a ∈ (steps .start events).2.annotations,
      a.isFixed = true := by
    intro a ha
    obtain ⟨hsalvaged, hleft⟩ := resolved_steps ha
    unfold Annotation.isFixed
    unfold Annotation.isLeftover at hleft
    cases hs : a.scope with
    | declaration _ _ => rfl
    | region _ _ => simp [hsalvaged]
    | file _ | trailing _ =>
        rw [hs] at hleft
        cases hleft
  have hend : ∀ a ∈ (finish (steps .start events).1 lastLine).2.annotations,
      ¬ a.isFixed = true := by
    intro a ha
    rw [annotations_finish (finished_steps ..)] at ha
    rcases List.mem_append.1 ha with ha | ha
    · obtain ⟨m, -, rfl⟩ := List.mem_map.1 ha
      unfold leftoverScope
      split <;> exact Bool.false_ne_true
    · obtain ⟨m, -, rfl⟩ := List.mem_map.1 ha
      exact Bool.false_ne_true
  rw [bind_eq, Outcome.annotations_append, List.filter_append,
    List.filter_eq_self.2 hread, List.filter_eq_nil_iff.2 hend,
    List.append_nil]

/-- The diagnostics that the end has no part in are those that the lines
bring. -/
theorem filter_isFixed_diagnostics (events : List Event)
    (lastLine : LineNumber) :
    (bind events lastLine).diagnostics.filter (·.isFixed)
      = (steps .start events).2.diagnostics := by
  have hread : ∀ d ∈ (steps .start events).2.diagnostics,
      d.isFixed = true := by
    intro d hd
    unfold Diagnostic.isFixed
    rw [kind_of_mem_diagnostics_steps hd]
    rfl
  have hend : ∀ d ∈ (finish (steps .start events).1 lastLine).2.diagnostics,
      ¬ d.isFixed = true := by
    intro d hd
    rw [diagnostics_finish (finished_steps ..)] at hd
    rcases List.mem_append.1 hd with hd | hd
    · split at hd
      · cases hd
      · obtain ⟨m, -, rfl⟩ := List.mem_map.1 hd
        exact Bool.false_ne_true
    · obtain ⟨m, -, rfl⟩ := List.mem_map.1 hd
      exact Bool.false_ne_true
  rw [bind_eq, Outcome.diagnostics_append, List.filter_append,
    List.filter_eq_self.2 hread, List.filter_eq_nil_iff.2 hend,
    List.append_nil]

-- ============================================================ idle lines

/-- An idle line in a file makes no difference. -/
theorem bind_idle {l : Comment.Line} (h : l.isIdle = true)
    (first rest : List Event) (lastLine : LineNumber) :
    bind (first ++ .line l :: rest) lastLine
      = bind (first ++ rest) lastLine := by
  rw [bind_append, bind_append, steps_cons, step_idle h,
    Outcome.nothing_append]

-- ========================================================== closed cuts

/-- Nothing waits and nothing is open. -/
structure State.Closed (s : State) : Prop where
  stack : s.stack = []
  waiting : s.waiting = []

/-- A state is later than another one when the same markers wait and the
same blocks are open, but more came before. -/
structure State.Later (s t : State) : Prop where
  stack : t.stack = s.stack
  waiting : t.waiting = s.waiting
  finished : t.finished = s.finished
  seen : s.seenContent = true → t.seenContent = true
  fromStart : s.waiting ≠ [] → t.waitingFromStart = true →
    s.waitingFromStart = true

/-- Where nothing waits and nothing is open it is merely later than at the
start. -/
theorem later_start (h : s.Closed) (hfinished : s.finished = false) :
    State.start.Later s where
  stack := h.stack
  waiting := h.waiting
  finished := hfinished
  seen hseen := by cases hseen
  fromStart hne := absurd rfl hne

/-- A line does the same later. -/
theorem later_step (h : s.Later t) (e : Event) :
    (step t e).2 = (step s e).2 ∧ (step s e).1.Later (step t e).1 := by
  cases e with
  | inline m =>
      refine ⟨rfl, h.stack, ?_, h.finished, fun _ => rfl, fun _ => ?_⟩
      · show t.waiting ++ [m] = s.waiting ++ [m]
        rw [h.waiting]
      · -- the first marker that waits asks what came before it
        show (if t.waiting.isEmpty then !t.seenContent
            else t.waitingFromStart) = true →
          (if s.waiting.isEmpty then !s.seenContent
            else s.waitingFromStart) = true
        rw [h.waiting]
        cases hw : s.waiting with
        | nil =>
            intro hseen
            cases hs : s.seenContent with
            | false => rfl
            | true =>
                simp [h.seen hs] at hseen
        | cons m' rest =>
            intro hfrom
            exact h.fromStart (by simp [hw]) hfrom
  | blockBegin m =>
      refine ⟨rfl, ?_, h.waiting, h.finished, fun _ => rfl, h.fromStart⟩
      show m :: t.stack = m :: s.stack
      rw [h.stack]
  | blockEnd line key =>
      show (closeBlock t line key).2 = (closeBlock s line key).2
        ∧ (closeBlock s line key).1.Later (closeBlock t line key).1
      unfold closeBlock
      rw [h.stack]
      cases takeNearest? key s.stack with
      | some found =>
          exact ⟨rfl, rfl, h.waiting, h.finished, fun _ => rfl, h.fromStart⟩
      | none =>
          exact ⟨rfl, rfl, h.waiting, h.finished, fun _ => rfl, h.fromStart⟩
  | unrecognized =>
      exact ⟨rfl, h.stack, h.waiting, h.finished, fun _ => rfl, h.fromStart⟩
  | line l =>
      cases hl : l.isIdle with
      | true =>
          rw [step_idle hl, step_idle hl]
          exact ⟨rfl, h⟩
      | false =>
          rw [step_content hl, step_content hl]
          refine ⟨?_, h.stack, rfl, h.finished, fun _ => rfl,
            fun hne => absurd rfl hne⟩
          unfold bindTo
          rw [h.waiting]

/-- Lines do the same later. -/
theorem later_steps (h : s.Later t) (events : List Event) :
    (steps t events).2 = (steps s events).2
      ∧ (steps s events).1.Later (steps t events).1 := by
  induction events generalizing s t with
  | nil => exact ⟨rfl, h⟩
  | cons e rest ih =>
      obtain ⟨houtcome, hlater⟩ := later_step h e
      obtain ⟨hrest, hlast⟩ := ih hlater
      rw [steps_cons, steps_cons, houtcome, hrest]
      exact ⟨rfl, hlast⟩

/-- The end of a file does the same later, unless there are markers that
would apply to the whole file. -/
theorem later_finish (h : s.Later t) (hs : s.finished = false)
    (hfrom : s.waiting ≠ [] → s.waitingFromStart = false) :
    (finish t lastLine).2 = (finish s lastLine).2 := by
  have ht : t.finished = false := h.finished.trans hs
  -- where no marker waits it makes no difference what came before
  have hsame : s.waiting = [] ∨ t.waitingFromStart = s.waitingFromStart := by
    by_cases hw : s.waiting = []
    · exact Or.inl hw
    · have hfalse := hfrom hw
      refine Or.inr (hfalse.symm ▸ ?_)
      rw [Bool.eq_false_iff]
      intro htrue
      rw [h.fromStart hw htrue] at hfalse
      cases hfalse
  apply Outcome.ext
  · rw [annotations_finish ht, annotations_finish hs, h.waiting, h.stack]
    rcases hsame with hw | hsame
    · rw [hw]
      rfl
    · rw [hsame]
  · rw [diagnostics_finish ht, diagnostics_finish hs, h.waiting, h.stack]
    rcases hsame with hw | hsame
    · rw [hw]
      simp
    · rw [hsame]

/-- The end of lines after which nothing waits and nothing is open brings
nothing. -/
theorem bind_of_closed (h : (steps .start events).1.Closed) :
    bind events lastLine = (steps .start events).2 := by
  rw [bind_eq]
  have hend : (finish (steps .start events).1 lastLine).2 = .nothing := by
    apply Outcome.ext
    · rw [annotations_finish (finished_steps ..), h.stack, h.waiting]
      rfl
    · rw [diagnostics_finish (finished_steps ..), h.stack, h.waiting]
      simp
  rw [hend, Outcome.append_nothing]

/-- A marker without a target that nothing comes before applies to the whole
file. -/
theorem exists_file_of_waitingFromStart
    (hw : (steps .start events).1.waiting ≠ [])
    (hfrom : (steps .start events).1.waitingFromStart = true) :
    ∃ a ∈ (bind events lastLine).annotations, ∃ n, a.scope = .file n := by
  obtain ⟨m, ms, hms⟩ := List.exists_cons_of_ne_nil hw
  refine ⟨⟨m, leftover events lastLine, false⟩, ?_, max lastLine 1, ?_⟩
  · rw [annotations_bind, hms]
    simp
  · unfold leftover leftoverScope
    rw [hfrom]
    rfl

/-- Where nothing waits and nothing is open, a file can be cut: the two
stretches are bound each by itself, unless the second one has markers that
apply to the whole of it. -/
theorem bind_closed (h : (steps .start first).1.Closed)
    (hfile : ∀ a ∈ (bind rest lastLine).annotations, ∀ n, a.scope ≠ .file n)
    (cut : LineNumber) :
    bind (first ++ rest) lastLine
      = bind first cut ++ bind rest lastLine := by
  have hlater := later_start h (finished_steps ..)
  obtain ⟨hsteps, hlast⟩ := later_steps hlater rest
  have hfrom : (steps .start rest).1.waiting ≠ [] →
      (steps .start rest).1.waitingFromStart = false := by
    intro hw
    rw [Bool.eq_false_iff]
    intro htrue
    obtain ⟨a, ha, n, hn⟩ := exists_file_of_waitingFromStart hw htrue
    exact hfile a ha n hn
  rw [bind_append, hsteps, later_finish hlast (finished_steps ..) hfrom,
    bind_of_closed h, bind_eq rest]

end Binding

end Marginalia
