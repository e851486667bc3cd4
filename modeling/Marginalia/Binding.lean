/-
Binding markers to what they apply to, line by line.

Open blocks lie on a stack. An end marker closes the nearest one with its
key and leaves the blocks above it open. Inline markers wait for the next
line that is neither idle nor an annotation, and all that wait are bound to
it at once.

At the end of the file the markers that still wait apply to the whole file
when no line with content came before the first of them, and to nothing
otherwise; blocks that are still open are salvaged, the outermost first,
with a region that runs to the last line.
-/
import Marginalia.Comment.Line
import Marginalia.Annotation
import Marginalia.Diagnostic

namespace Marginalia.Binding

-- =============================================================== state

/-- The state between two lines: the open blocks, innermost first, the
inline markers that wait, in order, whether anything but idle lines came so
far, whether nothing had come before the first of the waiting markers, and
whether the end of the file was reached. -/
structure State where
  stack : List Marker
  waiting : List Marker
  seenContent : Bool
  waitingFromStart : Bool
  finished : Bool

/-- The state before the first line. -/
def State.start : State := ⟨[], [], false, false, false⟩

/-- What a line is for the binding: a marker of one of the three forms, an
annotation line without a valid key, or any other line. -/
inductive Event where
  | inline (m : Marker)
  | blockBegin (m : Marker)
  | blockEnd (line : LineNumber) (key : Text)
  | unrecognized
  | line (l : Comment.Line)

/-- What a step brings: annotations that are bound, and diagnostics. -/
structure Outcome where
  annotations : List Annotation
  diagnostics : List Diagnostic

namespace Outcome

/-- No annotations and no diagnostics. -/
def nothing : Outcome := ⟨[], []⟩

/-- One outcome after another. -/
def append (a b : Outcome) : Outcome :=
  ⟨a.annotations ++ b.annotations, a.diagnostics ++ b.diagnostics⟩

instance : Append Outcome := ⟨append⟩

end Outcome

-- =============================================================== steps

/-- The innermost open block with the key, and the stack without it. -/
def takeNearest? (key : Text) : List Marker → Option (Marker × List Marker)
  | [] => none
  | m :: rest =>
    if m.key = key then some (m, rest)
    else
      match takeNearest? key rest with
      | some (found, left) => some (found, m :: left)
      | none => none

/-- Closes the nearest block with the key, or reports the end marker. -/
def closeBlock (s : State) (line : LineNumber) (key : Text) :
    State × Outcome :=
  match takeNearest? key s.stack with
  | some (m, left) =>
    ({ s with stack := left, seenContent := true },
      ⟨[⟨m, .region m.line line, false⟩], []⟩)
  | none =>
    ({ s with seenContent := true },
      ⟨[], [⟨line, .unmatchedEnd key (s.stack.map (·.key))⟩]⟩)

/-- Binds the waiting markers to a line with content. -/
def bindTo (s : State) (l : Comment.Line) : State × Outcome :=
  ({ s with waiting := [], seenContent := true },
    ⟨s.waiting.map fun m => ⟨m, .declaration l.number l.raw, false⟩, []⟩)

/-- One line. -/
def step (s : State) : Event → State × Outcome
  | .inline m =>
    let fromStart :=
      if s.waiting.isEmpty then !s.seenContent else s.waitingFromStart
    ({ s with
        waiting := s.waiting ++ [m]
        waitingFromStart := fromStart
        seenContent := true },
      .nothing)
  | .blockBegin m =>
    ({ s with stack := m :: s.stack, seenContent := true }, .nothing)
  | .blockEnd line key => closeBlock s line key
  | .unrecognized => ({ s with seenContent := true }, .nothing)
  | .line l => if l.isIdle then (s, .nothing) else bindTo s l

-- ========================================================= end of file

/-- What becomes of a marker that still waits at the end of the file. -/
def settle (fromStart : Bool) (lastLine : LineNumber) (m : Marker) :
    Outcome :=
  if fromStart then ⟨[⟨m, .file lastLine, false⟩], []⟩
  else ⟨[⟨m, .trailing lastLine, false⟩], [⟨m.line, .dangling m.key⟩]⟩

/-- What becomes of a block that is still open at the end of the file. -/
def salvage (lastLine : LineNumber) (m : Marker) : Outcome :=
  ⟨[⟨m, .region m.line lastLine, true⟩], [⟨m.line, .unclosedBlock m.key⟩]⟩

/-- Outcomes in order as one. -/
def Outcome.concat (outcomes : List Outcome) : Outcome :=
  outcomes.foldr (· ++ ·) nothing

/-- The end of a file of `lastLine` lines; an empty file counts as one
line. A second end brings nothing. -/
def finish (s : State) (lastLine : LineNumber) : State × Outcome :=
  if s.finished then (s, .nothing)
  else
    let lastLine := max lastLine 1
    ({ s with stack := [], waiting := [], finished := true },
      .concat (s.waiting.map (settle s.waitingFromStart lastLine))
        ++ .concat (s.stack.reverse.map (salvage lastLine)))

/-- All lines of a file in order. -/
def steps (s : State) : List Event → State × Outcome
  | [] => (s, .nothing)
  | e :: rest =>
    let (s, first) := step s e
    let (s, more) := steps s rest
    (s, first ++ more)

/-- A whole file, from its first line to its end. -/
def bind (events : List Event) (lastLine : LineNumber) : Outcome :=
  let (s, outcome) := steps .start events
  outcome ++ (finish s lastLine).2

-- ======================================================= small lemmas

/-- Taking the nearest block with a key splits the stack there: the blocks
above it have other keys. -/
theorem eq_of_takeNearest? {key : Text} {stack left : List Marker}
    {found : Marker} (h : takeNearest? key stack = some (found, left)) :
    ∃ above below, stack = above ++ found :: below ∧ left = above ++ below
      ∧ found.key = key ∧ ∀ m ∈ above, m.key ≠ key := by
  induction stack generalizing left with
  | nil => simp [takeNearest?] at h
  | cons m rest ih =>
    simp only [takeNearest?] at h
    split at h
    · next hk =>
      simp only [Option.some.injEq, Prod.mk.injEq] at h
      obtain ⟨rfl, rfl⟩ := h
      exact ⟨[], rest, rfl, rfl, hk, by simp⟩
    · next hk =>
      split at h
      · next f l hr =>
        simp only [Option.some.injEq, Prod.mk.injEq] at h
        obtain ⟨rfl, rfl⟩ := h
        obtain ⟨above, below, rfl, rfl, hf, ha⟩ := ih hr
        refine ⟨m :: above, below, rfl, rfl, hf, ?_⟩
        intro x hx
        rcases List.mem_cons.1 hx with rfl | hx
        · exact hk
        · exact ha x hx
      · simp at h

/-- No block is taken exactly when none has the key. -/
theorem takeNearest?_eq_none_iff {key : Text} {stack : List Marker} :
    takeNearest? key stack = none ↔ ∀ m ∈ stack, m.key ≠ key := by
  induction stack with
  | nil => simp [takeNearest?]
  | cons m rest ih =>
    simp only [takeNearest?, List.forall_mem_cons]
    split
    · next h => simp [h]
    · next h =>
      rw [← ih]
      cases hr : takeNearest? key rest <;> simp [h]

end Marginalia.Binding
