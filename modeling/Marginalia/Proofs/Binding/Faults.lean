/-
What the binding can report of a file. Every marker has one fault that it is
reported for when it cannot be bound: an inline marker dangles, a block is
not closed, an end marker is not matched. A marker that waits or is open
still has its fault before it; one that is bound, or was reported, has not.

So the faults ahead of a state and those reported on the way to it are never
more than the markers fed account for, whichever of them are counted
(`countP_step`, `countP_steps`, `countP_bind`). In a file whose lines are
numbered in order this leaves at most one report for a line, and it is the
fault of the marker on that line (`filter_diagnostics_bind`).
-/
import Marginalia.Proofs.Binding.Placement

namespace Marginalia

-- =============================================================== faults

/-- A kind of report on a line. -/
abbrev Fault := LineNumber × Diagnostic.Kind

/-- The line and the kind of a diagnostic. -/
def Diagnostic.fault (d : Diagnostic) : Fault := (d.line, d.kind)

/-- What a marker is reported for when it cannot be bound. -/
def Marker.Kind.faultKind : Marker.Kind → Diagnostic.Kind
  | .inline => .dangling
  | .blockBegin => .unclosedBlock
  | .blockEnd => .unmatchedEnd

namespace Binding

/-- The fault of the marker that is fed with a line. -/
def Event.fault? : Event → Option Fault
  | .inline m => some (m.line, .dangling)
  | .blockBegin m => some (m.line, .unclosedBlock)
  | .blockEnd n _ => some (n, .unmatchedEnd)
  | .unrecognized => none
  | .line _ => none

/-- The faults that are still ahead: those of the markers that wait and of
the open blocks. -/
def State.ahead (s : State) : List Fault :=
  s.waiting.map (fun m => (m.line, .dangling))
    ++ s.stack.map fun m => (m.line, .unclosedBlock)

/-- The faults that are reported. -/
def Outcome.faults (o : Outcome) : List Fault := o.diagnostics.map (·.fault)

@[simp] theorem Outcome.faults_append (a b : Outcome) :
    (a ++ b).faults = a.faults ++ b.faults := List.map_append

@[simp] theorem Outcome.faults_nothing : Outcome.nothing.faults = [] := rfl

/-- The fault of a marker is on the line that it is fed with. -/
theorem lineNumber?_of_fault? {e : Event} {f : Fault}
    (h : e.fault? = some f) : e.lineNumber? = some f.1 := by
  cases e with
  | inline _ | blockBegin _ | blockEnd _ _ =>
      injection h with h
      rw [← h]
      rfl
  | unrecognized | line _ => cases h

-- =============================================================== counts

section Counts

variable (q : Fault → Bool)

/-- An end marker takes a fault away with the block that it closes, or its
own is reported. -/
theorem countP_closeBlock (s : State) (line : LineNumber) (key : Text) :
    (closeBlock s line key).1.ahead.countP q
        + (closeBlock s line key).2.faults.countP q
      ≤ s.ahead.countP q + [(line, Diagnostic.Kind.unmatchedEnd)].countP q := by
  rcases closeBlock_cases s line key with ⟨m, left, ht, h⟩ | ⟨-, h⟩
  · obtain ⟨above, below, hstack, rfl, -⟩ := eq_of_takeNearest? ht
    rw [h]
    simp only [State.ahead, hstack, Outcome.faults, List.map_append,
      List.map_cons, List.map_nil, List.countP_append, List.countP_cons,
      List.countP_nil]
    omega
  · rw [h]
    exact Nat.le_refl _

/-- No line adds more faults than that of its own marker. -/
theorem countP_step (s : State) (e : Event) :
    (step s e).1.ahead.countP q + (step s e).2.faults.countP q
      ≤ s.ahead.countP q + e.fault?.toList.countP q := by
  cases e with
  | inline m =>
      simp only [step, State.ahead, Event.fault?, Outcome.faults_nothing,
        Option.toList_some, List.map_append, List.map_cons, List.map_nil,
        List.countP_append, List.countP_nil]
      omega
  | blockBegin m =>
      simp only [step, State.ahead, Event.fault?, Outcome.faults_nothing,
        Option.toList_some, List.map_cons, List.countP_append,
        List.countP_cons, List.countP_nil]
      omega
  | blockEnd line key => exact countP_closeBlock q s line key
  | unrecognized => exact Nat.le_refl _
  | line l =>
      cases hl : l.isIdle with
      | true =>
          rw [step_idle hl]
          exact Nat.le_refl _
      | false =>
          -- whatever waited has a target now
          rw [step_content hl]
          simp only [bindTo, State.ahead, Event.fault?, Outcome.faults,
            Option.toList_none, List.map_nil, List.countP_append,
            List.countP_nil]
          omega

/-- No run adds more faults than those of the markers that it is fed. -/
theorem countP_steps (s : State) (events : List Event) :
    (steps s events).1.ahead.countP q + (steps s events).2.faults.countP q
      ≤ s.ahead.countP q + (events.filterMap Event.fault?).countP q := by
  induction events generalizing s with
  | nil => exact Nat.le_refl _
  | cons e rest ih =>
      have hstep := countP_step q s e
      have hrest := ih (step s e).1
      have hfed : (e :: rest).filterMap Event.fault?
          = e.fault?.toList ++ rest.filterMap Event.fault? := by
        rw [List.filterMap_cons]
        cases e.fault? <;> rfl
      rw [steps_cons, hfed]
      simp only [Outcome.faults_append, List.countP_append]
      omega

/-- The end of a file reports none but the faults that are ahead. -/
theorem countP_finish {s : State} (h : s.finished = false)
    (lastLine : LineNumber) :
    (finish s lastLine).2.faults.countP q ≤ s.ahead.countP q := by
  have hstack : (s.stack.reverse.map fun m =>
      (⟨m.line, .unclosedBlock m.key⟩ : Diagnostic).fault).countP q
      = (s.stack.map fun m => (m.line, .unclosedBlock)).countP q :=
    ((List.reverse_perm s.stack).map _).countP_eq q
  unfold Outcome.faults State.ahead
  rw [diagnostics_finish h, List.map_append, List.countP_append,
    List.countP_append, List.map_map]
  refine Nat.add_le_add ?_ (Nat.le_of_eq hstack)
  cases s.waitingFromStart with
  | true => exact Nat.zero_le _
  | false =>
      rw [if_neg Bool.false_ne_true, List.map_map]
      exact Nat.le_refl _

/-- The faults reported of a file are among those of its markers, each as
often at most. -/
theorem countP_bind (events : List Event) (lastLine : LineNumber) :
    (bind events lastLine).faults.countP q
      ≤ (events.filterMap Event.fault?).countP q := by
  have hsteps := countP_steps q .start events
  have hfinish := countP_finish q
    (finished_steps .start events : (steps .start events).1.finished = false)
    lastLine
  have hstart : State.start.ahead.countP q = 0 := rfl
  rw [bind_eq, Outcome.faults_append, List.countP_append]
  omega

end Counts

-- ============================================================== one line

section OneLine

variable {events : List Event}

/-- Where lines are numbered in order, at most one marker has its fault on a
line. -/
theorem countP_line_le_one
    (hsorted : (events.filterMap Event.lineNumber?).Pairwise (· < ·))
    (n : LineNumber) :
    (events.filterMap Event.fault?).countP (·.1 == n) ≤ 1 := by
  have hnodup : ((events.filterMap Event.fault?).map (·.1)).Nodup := by
    rw [List.pairwise_filterMap] at hsorted
    refine List.pairwise_map.2 (List.pairwise_filterMap.2 ?_)
    refine hsorted.imp fun hab f hf f' hf' => ?_
    exact Int.ne_of_lt (hab _ (lineNumber?_of_fault? hf) _
      (lineNumber?_of_fault? hf'))
  have hcount := List.nodup_iff_count.1 hnodup n
  rwa [List.count, List.countP_map] at hcount

/-- The binding reports the fault of the marker on a line, once, or it
reports nothing of the line. -/
theorem filter_diagnostics_bind
    (hsorted : (events.filterMap Event.lineNumber?).Pairwise (· < ·))
    (lastLine n : LineNumber) :
    (bind events lastLine).diagnostics.filter (·.line == n) = []
      ∨ ∃ cause : Diagnostic.Cause,
        (∃ e ∈ events, e.fault? = some (n, cause.kind))
          ∧ (bind events lastLine).diagnostics.filter (·.line == n)
            = [⟨n, cause⟩] := by
  have hlength : ((bind events lastLine).diagnostics.filter
      (·.line == n)).length ≤ 1 := by
    have h := countP_bind (fun f => f.1 == n) events lastLine
    unfold Outcome.faults at h
    rw [List.countP_map, List.countP_eq_length_filter] at h
    exact Nat.le_trans h (countP_line_le_one hsorted n)
  cases hfilter : (bind events lastLine).diagnostics.filter (·.line == n) with
  | nil => exact Or.inl rfl
  | cons d rest =>
      rw [hfilter, List.length_cons] at hlength
      have hrest : rest = [] := List.length_eq_zero_iff.1 (by omega)
      have hd : d ∈ (bind events lastLine).diagnostics
          ∧ (d.line == n) = true := by
        apply List.mem_filter.1
        rw [hfilter]
        exact List.mem_cons_self ..
      have hline : d.line = n := beq_iff_eq.1 hd.2
      -- its own fault is counted, so it is the fault of some marker
      have hpos : 0 < (bind events lastLine).faults.countP (· == d.fault) :=
        List.countP_pos_iff.2
          ⟨d.fault, List.mem_map_of_mem hd.1, beq_self_eq_true _⟩
      obtain ⟨f, hf, heq⟩ := List.countP_pos_iff.1
        (Nat.lt_of_lt_of_le hpos (countP_bind _ events lastLine))
      obtain ⟨e, he, hfault⟩ := List.mem_filterMap.1 hf
      obtain ⟨line, cause⟩ := d
      subst hline
      refine Or.inr ⟨cause, ⟨e, he, ?_⟩, by rw [hrest]⟩
      rw [hfault, beq_iff_eq.1 heq]
      rfl

end OneLine

end Binding

end Marginalia
