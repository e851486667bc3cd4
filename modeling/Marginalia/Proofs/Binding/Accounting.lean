/-
No marker is lost and none is bound twice. An inline marker waits or has
become one inline annotation, a begin marker is on the stack or has become
one block, and an end marker has closed a block or was reported.

# The balance

`Balance` relates the states at both ends of a stretch of a file with what
the stretch was fed and what it brought. One line keeps it (`balance_step`),
two stretches that follow each other add up (`Balance.append`), and so it
holds over every run and past the end of the file, where nothing waits and
nothing is open any more (`markers_accounted`).

What the end of a file reports are just the blocks that it salvages and the
markers that it leaves without a target, each once and in the same order
(`Reported`).
-/
import Marginalia.Proofs.Binding.Run

namespace Marginalia

-- =============================================================== views

/-- The annotation of an inline marker that applies to nothing. -/
def Annotation.isTrailing (a : Annotation) : Bool :=
  match a.scope with
  | .trailing _ => true
  | _ => false

theorem Annotation.isTrailing_iff {a : Annotation} :
    a.isTrailing = true ↔ ∃ n, a.scope = .trailing n := by
  unfold isTrailing
  cases a.scope <;> simp

/-- The annotation of an inline marker for which no target was found: it
applies to the whole file or to nothing. -/
def Annotation.isLeftover (a : Annotation) : Bool :=
  match a.scope with
  | .file _ => true
  | .trailing _ => true
  | _ => false

theorem Annotation.isLeftover_of_isTrailing {a : Annotation}
    (h : a.isTrailing = true) : a.isLeftover = true := by
  unfold isTrailing at h
  unfold isLeftover
  split at h
  · next hs => rw [hs]
  · cases h

/-- The line and the key of a begin marker that is reported as never
closed. -/
def Diagnostic.unclosed? (d : Diagnostic) : Option (LineNumber × Text) :=
  match d.cause with
  | .unclosedBlock key => some (d.line, key)
  | _ => none

/-- The line and the key of an inline marker that is reported for lack of a
target. -/
def Diagnostic.dangling? (d : Diagnostic) : Option (LineNumber × Text) :=
  match d.cause with
  | .dangling key => some (d.line, key)
  | _ => none

theorem Diagnostic.unclosed?_eq_some {d : Diagnostic} {line : LineNumber} :
    (∃ key, d.unclosed? = some (line, key))
      ↔ d.kind = .unclosedBlock ∧ d.line = line := by
  obtain ⟨number, cause⟩ := d
  cases cause with
  | unclosedBlock key => simp [unclosed?, kind, Cause.kind]
  | payload p => cases p <;> simp [unclosed?, kind, Cause.kind]
  | unmatchedEnd _ _ | dangling _ | noKey _ =>
      simp [unclosed?, kind, Cause.kind]

theorem Diagnostic.dangling?_eq_some {d : Diagnostic} {line : LineNumber} :
    (∃ key, d.dangling? = some (line, key))
      ↔ d.kind = .dangling ∧ d.line = line := by
  obtain ⟨number, cause⟩ := d
  cases cause with
  | dangling key => simp [dangling?, kind, Cause.kind]
  | payload p => cases p <;> simp [dangling?, kind, Cause.kind]
  | unmatchedEnd _ _ | unclosedBlock _ | noKey _ =>
      simp [dangling?, kind, Cause.kind]

namespace Binding

/-- The inline marker that is fed with a line. -/
def Event.inlineMarker? : Event → Option Marker
  | .inline m => some m
  | _ => none

/-- The begin marker that is fed with a line. -/
def Event.beginMarker? : Event → Option Marker
  | .blockBegin m => some m
  | _ => none

/-- Is an end marker fed with this line? -/
def Event.isEnd : Event → Bool
  | .blockEnd .. => true
  | _ => false

-- ============================================================= balance

/-- What is fed between two states and what is brought on the way balance:
the markers that wait or are open before and those that are fed are those
that wait or are open after and those that became annotations; and every
end marker closed a block or was reported. -/
structure Balance (s : State) (events : List Event) (s' : State)
    (o : Outcome) : Prop where
  inlines : (s.waiting ++ events.filterMap Event.inlineMarker?).Perm
    (s'.waiting ++ o.inlines.map (·.marker))
  begins : (s.stack ++ events.filterMap Event.beginMarker?).Perm
    (s'.stack ++ o.blocks.map (·.marker))
  ends : events.countP Event.isEnd
    = o.blocks.countP (fun a => !a.salvaged)
      + o.diagnostics.countP (·.kind == .unmatchedEnd)

/-- What is carried over between two stretches cancels out. -/
theorem perm_carry {α : Type} {before fed between brought fed' after brought' :
    List α} (h : (before ++ fed).Perm (between ++ brought))
    (h' : (between ++ fed').Perm (after ++ brought')) :
    (before ++ (fed ++ fed')).Perm (after ++ (brought ++ brought')) := by
  have hswap : (between ++ brought ++ fed').Perm
      (between ++ fed' ++ brought) := by
    rw [List.append_assoc, List.append_assoc]
    exact List.perm_append_comm.append_left between
  have hswap' : (after ++ brought' ++ brought).Perm
      (after ++ (brought ++ brought')) := by
    rw [List.append_assoc]
    exact List.perm_append_comm.append_left after
  rw [← List.append_assoc]
  exact (h.append_right fed').trans
    (hswap.trans ((h'.append_right brought).trans hswap'))

/-- Two stretches that follow each other balance together. -/
theorem Balance.append {s s' s'' : State} {first rest : List Event}
    {o o' : Outcome} (h : Balance s first s' o)
    (h' : Balance s' rest s'' o') :
    Balance s (first ++ rest) s'' (o ++ o') := by
  constructor
  · rw [List.filterMap_append, Outcome.inlines_append, List.map_append]
    exact perm_carry h.inlines h'.inlines
  · rw [List.filterMap_append, Outcome.blocks_append, List.map_append]
    exact perm_carry h.begins h'.begins
  · -- nothing is carried over here, the counts just add up
    rw [List.countP_append, Outcome.blocks_append, List.countP_append,
      Outcome.diagnostics_append, List.countP_append, h.ends, h'.ends]
    omega

/-- A stretch that keeps all markers where they are balances. -/
theorem Balance.of_eq {s s' : State} (hw : s'.waiting = s.waiting)
    (hs : s'.stack = s.stack) : Balance s [] s' .nothing := by
  constructor
  · rw [hw]
    exact List.Perm.refl _
  · rw [hs]
    exact List.Perm.refl _
  · rfl

/-- An end marker takes its block off the stack, or it is reported. -/
theorem balance_closeBlock (s : State) (line : LineNumber) (key : Text) :
    Balance s [.blockEnd line key] (closeBlock s line key).1
      (closeBlock s line key).2 := by
  rcases closeBlock_cases s line key with ⟨m, left, ht, h⟩ | ⟨-, h⟩
  · -- the block may be taken from the middle of the stack
    obtain ⟨above, below, hstack, rfl, -⟩ := eq_of_takeNearest? ht
    rw [h]
    refine ⟨List.Perm.refl _, ?_, rfl⟩
    show (s.stack ++ []).Perm (above ++ below ++ [m])
    rw [hstack, List.append_nil]
    exact List.perm_middle.trans (List.perm_append_singleton ..).symm
  · rw [h]
    exact ⟨List.Perm.refl _, List.Perm.refl _, rfl⟩

/-- A line with content turns all markers that wait into annotations. -/
theorem balance_bindTo (s : State) (l : Comment.Line) :
    Balance s [.line l] (bindTo s l).1 (bindTo s l).2 := by
  refine ⟨?_, ?_, ?_⟩
  · rw [inlines_bindTo, List.map_map]
    show (s.waiting ++ []).Perm ([] ++ s.waiting.map id)
    rw [List.append_nil, List.map_id, List.nil_append]
  · rw [blocks_bindTo]
    exact List.Perm.refl _
  · rw [blocks_bindTo]
    rfl

/-- Every line balances. -/
theorem balance_step (s : State) (e : Event) :
    Balance s [e] (step s e).1 (step s e).2 := by
  cases e with
  | inline m =>
      refine ⟨?_, List.Perm.refl _, rfl⟩
      show (s.waiting ++ [m]).Perm (s.waiting ++ [m] ++ [])
      rw [List.append_nil]
  | blockBegin m =>
      refine ⟨List.Perm.refl _, ?_, rfl⟩
      show (s.stack ++ [m]).Perm (m :: s.stack ++ [])
      rw [List.append_nil]
      exact List.perm_append_singleton ..
  | blockEnd line key => exact balance_closeBlock s line key
  | unrecognized => exact ⟨List.Perm.refl _, List.Perm.refl _, rfl⟩
  | line l =>
      cases hl : l.isIdle with
      | true =>
          rw [step_idle hl]
          exact ⟨List.Perm.refl _, List.Perm.refl _, rfl⟩
      | false =>
          rw [step_content hl]
          exact balance_bindTo s l

/-- Every run of lines balances. -/
theorem balance_steps (s : State) (events : List Event) :
    Balance s events (steps s events).1 (steps s events).2 := by
  induction events generalizing s with
  | nil => exact .of_eq rfl rfl
  | cons e rest ih =>
      rw [steps_cons]
      exact (balance_step s e).append (ih (step s e).1)

-- ========================================================= end of file

/-- No block is salvaged by a line, and no marker is given a scope for lack
of a target. -/
theorem resolved_step {s : State} {e : Event} {a : Annotation}
    (h : a ∈ (step s e).2.annotations) :
    a.salvaged = false ∧ a.isLeftover = false := by
  cases e with
  | inline _ | blockBegin _ | unrecognized => cases h
  | blockEnd line key =>
      change a ∈ (closeBlock s line key).2.annotations at h
      rcases closeBlock_cases s line key with ⟨m, left, -, hc⟩ | ⟨-, hc⟩
      · rw [hc] at h
        rw [List.mem_singleton.1 h]
        exact ⟨rfl, rfl⟩
      · rw [hc] at h
        cases h
  | line l =>
      cases hl : l.isIdle with
      | true =>
          rw [step_idle hl] at h
          cases h
      | false =>
          rw [step_content hl] at h
          obtain ⟨m, -, rfl⟩ := List.mem_map.1 h
          exact ⟨rfl, rfl⟩

theorem resolved_steps {s : State} {events : List Event} {a : Annotation}
    (h : a ∈ (steps s events).2.annotations) :
    a.salvaged = false ∧ a.isLeftover = false := by
  induction events generalizing s with
  | nil => cases h
  | cons e rest ih =>
      rw [steps_cons, Outcome.annotations_append] at h
      rcases List.mem_append.1 h with h | h
      · exact resolved_step h
      · exact ih h

/-- What of a diagnostic is looked at tells which annotations are picked: a
report of an unclosed block goes with the salvaged one, a dangling marker
with the annotation that it became, and no other report goes with any. -/
structure Reported (view : Diagnostic → Option (LineNumber × Text))
    (pick : Annotation → Bool) : Prop where
  unmatched : ∀ line key openKeys,
    view ⟨line, .unmatchedEnd key openKeys⟩ = none
  bound : ∀ a : Annotation, a.salvaged = false → a.isLeftover = false →
    pick a = false
  salvaged : ∀ (m : Marker) (last : LineNumber),
    view ⟨m.line, .unclosedBlock m.key⟩
      = if pick ⟨m, .region m.line last, true⟩ then some (m.line, m.key)
        else none
  file : ∀ (m : Marker) (n : LineNumber), pick ⟨m, .file n, false⟩ = false
  trailing : ∀ (m : Marker) (n : LineNumber),
    view ⟨m.line, .dangling m.key⟩
      = if pick ⟨m, .trailing n, false⟩ then some (m.line, m.key) else none

theorem reported_unclosed : Reported Diagnostic.unclosed? (·.salvaged) where
  unmatched _ _ _ := rfl
  bound _ h _ := h
  salvaged _ _ := rfl
  file _ _ := rfl
  trailing _ _ := rfl

theorem reported_dangling : Reported Diagnostic.dangling? (·.isTrailing) where
  unmatched _ _ _ := rfl
  bound a _ h := Bool.eq_false_iff.2 fun htrailing => by
    have hleft := Annotation.isLeftover_of_isTrailing htrailing
    rw [h] at hleft
    cases hleft
  salvaged _ _ := rfl
  file _ _ := rfl
  trailing _ _ := rfl

/-- Where each marker is reported just when its annotation is picked, the
reports of some markers are their picked annotations, in order. -/
theorem filterMap_reports {view : Diagnostic → Option (LineNumber × Text)}
    {pick : Annotation → Bool} {report : Marker → Diagnostic}
    {become : Marker → Annotation} (markers : List Marker)
    (h : ∀ m, view (report m)
      = if pick (become m) then some ((become m).firstLine, (become m).key)
        else none) :
    (markers.map report).filterMap view
      = ((markers.map become).filter pick).map
          fun a => (a.firstLine, a.key) := by
  induction markers with
  | nil => rfl
  | cons m rest ih =>
      rw [List.map_cons, List.map_cons]
      cases hpick : pick (become m) with
      | true =>
          rw [List.filterMap_cons_some ((h m).trans (if_pos hpick)),
            List.filter_cons_of_pos hpick, List.map_cons, ih]
      | false =>
          have hnot : ¬ pick (become m) = true := Bool.eq_false_iff.1 hpick
          rw [List.filterMap_cons_none ((h m).trans (if_neg hnot)),
            List.filter_cons_of_neg hnot, ih]

/-- The end of a file reports the annotations that are picked, in order. -/
theorem Reported.of_finish {view : Diagnostic → Option (LineNumber × Text)}
    {pick : Annotation → Bool} (hview : Reported view pick) {s : State}
    (h : s.finished = false) (lastLine : LineNumber) :
    (finish s lastLine).2.diagnostics.filterMap view
      = ((finish s lastLine).2.annotations.filter pick).map
          fun a => (a.firstLine, a.key) := by
  rw [diagnostics_finish h, annotations_finish h, List.filterMap_append,
    List.filter_append, List.map_append,
    filterMap_reports s.stack.reverse fun m =>
      hview.salvaged m (max lastLine 1)]
  congr 1
  cases s.waitingFromStart with
  | true =>
      -- nothing is reported, for all that waits applies to the whole file
      rw [List.filter_eq_nil_iff.2]
      · rfl
      · intro a ha
        obtain ⟨m, -, rfl⟩ := List.mem_map.1 ha
        exact Bool.eq_false_iff.1 (hview.file m _)
  | false =>
      exact filterMap_reports s.waiting fun m =>
        hview.trailing m (max lastLine 1)

-- =========================================================== whole files

/-- What a file reports are the annotations that are picked, each once. -/
theorem Reported.of_bind {view : Diagnostic → Option (LineNumber × Text)}
    {pick : Annotation → Bool} (hview : Reported view pick)
    (events : List Event) (lastLine : LineNumber) :
    (bind events lastLine).diagnostics.filterMap view
      = ((bind events lastLine).annotations.filter pick).map
          fun a => (a.firstLine, a.key) := by
  have hreports : (steps .start events).2.diagnostics.filterMap view = [] :=
    List.filterMap_eq_nil_iff.2 fun d hd => by
      obtain ⟨key, openKeys, -, hcause⟩ := blockEnd_of_mem_diagnostics_steps hd
      obtain ⟨line, cause⟩ := d
      rw [show cause = _ from hcause]
      exact hview.unmatched line key openKeys
  have hread : (steps .start events).2.annotations.filter pick = [] :=
    List.filter_eq_nil_iff.2 fun a ha => by
      obtain ⟨hsalvaged, hleft⟩ := resolved_steps ha
      rw [hview.bound a hsalvaged hleft]
      exact Bool.false_ne_true
  rw [bind_eq, Outcome.diagnostics_append, Outcome.annotations_append,
    List.filterMap_append, List.filter_append, hread, List.nil_append,
    hreports, List.nil_append, hview.of_finish (finished_steps ..)]

/-- Nothing waits and nothing is open at the end of a file. -/
theorem state_finish {s : State} (h : s.finished = false)
    (lastLine : LineNumber) :
    (finish s lastLine).1
      = { s with stack := [], waiting := [], finished := true } := by
  unfold finish
  rw [h]
  rfl

/-- The end of a file balances too: no end marker is met there. -/
theorem balance_finish {s : State} (h : s.finished = false)
    (lastLine : LineNumber) :
    Balance s [] (finish s lastLine).1 (finish s lastLine).2 := by
  rw [state_finish h]
  refine ⟨?_, ?_, ?_⟩
  · show (s.waiting ++ []).Perm ([] ++ _)
    rw [inlines_finish h, List.map_map, List.append_nil, List.nil_append]
    exact .of_eq (List.map_id _).symm
  · show (s.stack ++ []).Perm ([] ++ _)
    rw [blocks_finish h, List.map_map, List.append_nil, List.nil_append]
    exact (List.reverse_perm _).symm.trans (.of_eq (List.map_id _).symm)
  · have hsalvaged : (finish s lastLine).2.blocks.countP (fun a => !a.salvaged)
        = 0 := by
      rw [blocks_finish h]
      refine List.countP_eq_zero.2 fun a ha => ?_
      obtain ⟨m, -, rfl⟩ := List.mem_map.1 ha
      exact Bool.false_ne_true
    have hreported : (finish s lastLine).2.diagnostics.countP
        (·.kind == .unmatchedEnd) = 0 := by
      rw [diagnostics_finish h]
      refine List.countP_eq_zero.2 fun d hd => ?_
      rcases List.mem_append.1 hd with hd | hd
      · split at hd
        · cases hd
        · obtain ⟨m, -, rfl⟩ := List.mem_map.1 hd
          exact Bool.false_ne_true
      · obtain ⟨m, -, rfl⟩ := List.mem_map.1 hd
        exact Bool.false_ne_true
    rw [hsalvaged, hreported]
    rfl

/-- Every whole file balances. -/
theorem balance_bind (events : List Event) (lastLine : LineNumber) :
    Balance .start events (finish (steps .start events).1 lastLine).1
      (bind events lastLine) := by
  have h := (balance_steps .start events).append
    (balance_finish (finished_steps .start events) lastLine)
  rw [List.append_nil, ← bind_eq] at h
  exact h

/-- The inline annotations of a file are its inline markers. -/
theorem inlineMarkers_perm (events : List Event) (lastLine : LineNumber) :
    (events.filterMap Event.inlineMarker?).Perm
      ((bind events lastLine).inlines.map (·.marker)) := by
  have h := (balance_bind events lastLine).inlines
  rw [state_finish (finished_steps ..)] at h
  exact h

/-- The blocks of a file are its begin markers. -/
theorem beginMarkers_perm (events : List Event) (lastLine : LineNumber) :
    (events.filterMap Event.beginMarker?).Perm
      ((bind events lastLine).blocks.map (·.marker)) := by
  have h := (balance_bind events lastLine).begins
  rw [state_finish (finished_steps ..)] at h
  exact h

/-- No marker is lost and none is bound twice. After every stretch of a
file, the inline markers met are those that wait and those of the inline
annotations so far, and the begin markers met are the open ones and those of
the blocks so far. At the end of the file nothing waits and nothing is open,
so every inline marker has become one inline annotation and every begin
marker one block; the end markers are as many as the blocks they closed and
the reports of unmatched ones. The salvaged blocks are the begin markers
reported as unclosed and the markers without a target are those reported as
dangling, in the same order, and a second end of the file changes
nothing. -/
theorem markers_accounted (events : List Event) (lastLine : LineNumber) :
    (∀ before, before <+: events →
      Balance .start before (steps .start before).1 (steps .start before).2)
    ∧ (finish (steps .start events).1 lastLine).1.waiting = []
    ∧ (finish (steps .start events).1 lastLine).1.stack = []
    ∧ (events.filterMap Event.inlineMarker?).Perm
        ((bind events lastLine).inlines.map (·.marker))
    ∧ (events.filterMap Event.beginMarker?).Perm
        ((bind events lastLine).blocks.map (·.marker))
    ∧ events.countP Event.isEnd
        = (bind events lastLine).blocks.countP (fun a => !a.salvaged)
          + (bind events lastLine).diagnostics.countP
              (·.kind == .unmatchedEnd)
    ∧ (bind events lastLine).diagnostics.filterMap Diagnostic.unclosed?
        = ((bind events lastLine).annotations.filter (·.salvaged)).map
            (fun a => (a.firstLine, a.key))
    ∧ (bind events lastLine).diagnostics.filterMap Diagnostic.dangling?
        = ((bind events lastLine).annotations.filter (·.isTrailing)).map
            (fun a => (a.firstLine, a.key))
    ∧ ∀ again, finish (finish (steps .start events).1 lastLine).1 again
        = ((finish (steps .start events).1 lastLine).1, .nothing) := by
  have hall := balance_bind events lastLine
  have hstate := state_finish
    (finished_steps .start events : (steps .start events).1.finished = false)
    lastLine
  refine ⟨fun before _ => balance_steps .start before, ?_, ?_,
    inlineMarkers_perm .., beginMarkers_perm .., hall.ends,
    reported_unclosed.of_bind .., reported_dangling.of_bind ..,
    fun again => ?_⟩
  · rw [hstate]
  · rw [hstate]
  · rw [hstate]
    rfl

/-- A marker that waits while a block is closed around one that stays open:
after three lines all of them are on the way, and at the end one block is
reported, as is the second of two end markers. -/
theorem markers_accounted_nested :
    let events : List Event := [.inline ⟨1, "x", .empty⟩,
      .blockBegin ⟨2, "a", .empty⟩, .blockBegin ⟨3, "b", .empty⟩,
      .blockEnd 4 "a", .blockEnd 5 "a"]
    events.take 3 <+: events
      ∧ Balance .start (events.take 3) (steps .start (events.take 3)).1
          (steps .start (events.take 3)).2
      ∧ (bind events 5).diagnostics.filterMap Diagnostic.unclosed?
          = [(3, Text.ofString "b")]
      ∧ (bind events 5).blocks.countP (fun a => !a.salvaged)
          + (bind events 5).diagnostics.countP (·.kind == .unmatchedEnd)
          = 2 := by
  intro events
  have htake : events.take 3 <+: events := List.take_prefix 3 events
  obtain ⟨hbalance, -, -, -, -, hends, hunclosed, -, -⟩ :=
    markers_accounted events 5
  refine ⟨htake, hbalance _ htake, hunclosed.trans ?_, hends.symm⟩
  decide

end Binding

end Marginalia
