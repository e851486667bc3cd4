/-
Where annotations lie in a file whose lines are fed in order. A marker that
waits or is open stands on an earlier line than the one that is fed
(`State.UpTo`), so a scope never starts before its marker (`Placed`), and no
two annotations come from one line (`nodup_firstLine`).

The markers that find no target share one scope (`scope_of_isLeftover`), so
a file never has some that apply to the whole of it and some that apply to
nothing.
-/
import Mathlib.Data.List.Nodup
import Marginalia.Proofs.Binding.Accounting
import Marginalia.Proofs.Binding.KeyStack
import Marginalia.Proofs.Binding.Targets

namespace Marginalia.Binding

-- ============================================================== placing

/-- The scope of a marker lies where its kind calls for, in a file of so
many lines: a declaration behind the marker, and a region from it on. -/
inductive Placed (m : Marker) (lastLine : LineNumber) : Scope → Prop
  | file : Placed m lastLine (.file lastLine)
  | declaration {line : LineNumber} {text : Text} (behind : m.line < line)
      (inside : line ≤ lastLine) : Placed m lastLine (.declaration line text)
  | region {last : LineNumber} (ordered : m.line ≤ last)
      (inside : last ≤ lastLine) : Placed m lastLine (.region m.line last)
  | trailing : Placed m lastLine (.trailing lastLine)

namespace Placed

variable {m : Marker} {scope : Scope} {a : Annotation} {lastLine : LineNumber}

/-- A placed scope lies in the file. -/
theorem inside (h : Placed m lastLine scope) (hm : 1 ≤ m.line)
    (hm' : m.line ≤ lastLine) :
    1 ≤ scope.first ∧ scope.first ≤ scope.last ∧ scope.last ≤ lastLine := by
  have hlast := Int.le_trans hm hm'
  cases h with
  | file => exact ⟨Int.le_refl _, hlast, Int.le_refl _⟩
  | declaration behind inside =>
      exact ⟨Int.le_of_lt (Int.lt_of_le_of_lt hm behind), Int.le_refl _, inside⟩
  | region ordered inside => exact ⟨hm, ordered, inside⟩
  | trailing => exact ⟨hlast, Int.le_refl _, Int.le_refl _⟩

/-- The lines of an annotation with a placed scope lie in the file. -/
theorem range (h : Placed a.marker lastLine a.scope)
    (hm : a.firstLine ≤ lastLine) :
    a.firstLine ≤ a.lastLine ∧ a.lastLine ≤ lastLine := by
  obtain ⟨m, scope, salvaged⟩ := a
  change Placed m lastLine scope at h
  cases h with
  | region ordered inside => exact ⟨ordered, inside⟩
  | file | declaration _ _ | trailing => exact ⟨Int.le_refl _, hm⟩

/-- An inline annotation ends where it starts, and a declaration that it
applies to stands behind it. -/
theorem inline (h : Placed a.marker lastLine a.scope)
    (hb : a.isBlock = false) :
    a.firstLine = a.lastLine
      ∧ ((∃ line text, a.scope = .declaration line text ∧ a.firstLine < line)
        ∨ (∃ n, a.scope = .file n) ∨ ∃ n, a.scope = .trailing n) := by
  obtain ⟨m, scope, salvaged⟩ := a
  change Placed m lastLine scope at h
  cases h with
  | file => exact ⟨rfl, .inr (.inl ⟨_, rfl⟩)⟩
  | declaration behind inside => exact ⟨rfl, .inl ⟨_, _, rfl, behind⟩⟩
  | region ordered inside => cases hb
  | trailing => exact ⟨rfl, .inr (.inr ⟨_, rfl⟩)⟩

/-- A block applies to its own lines. -/
theorem block (h : Placed a.marker lastLine a.scope)
    (hb : a.isBlock = true) :
    a.scope = .region a.firstLine a.lastLine := by
  obtain ⟨m, scope, salvaged⟩ := a
  change Placed m lastLine scope at h
  cases h with
  | region ordered inside => rfl
  | file | declaration _ _ | trailing => cases hb

end Placed

/-- The markers that wait or are open stand on lines up to this one. -/
structure State.UpTo (s : State) (line : LineNumber) : Prop where
  waiting : ∀ m ∈ s.waiting, m.line ≤ line
  stack : ∀ m ∈ s.stack, m.line ≤ line

theorem State.UpTo.mono {s : State} {line line' : LineNumber} (h : s.UpTo line)
    (hle : line ≤ line') : s.UpTo line' :=
  ⟨fun m hm => Int.le_trans (h.waiting m hm) hle,
    fun m hm => Int.le_trans (h.stack m hm) hle⟩

/-- The block that an end marker closes is open, so it begins no later. -/
theorem placed_closeBlock {s : State} {line lastLine : LineNumber}
    (hs : s.UpTo line) (hlast : line ≤ lastLine) (key : Text) :
    (closeBlock s line key).1.UpTo line
      ∧ ∀ a ∈ (closeBlock s line key).2.annotations,
          Placed a.marker lastLine a.scope := by
  rcases closeBlock_cases s line key with ⟨m, left, ht, h⟩ | ⟨-, h⟩
  · obtain ⟨above, below, hstack, rfl, -⟩ := eq_of_takeNearest? ht
    have hopen := hs.stack
    rw [hstack] at hopen
    obtain ⟨habove, hm, hbelow⟩ := List.forall_mem_append.1 hopen
      |>.imp_right List.forall_mem_cons.1
    rw [h]
    exact ⟨⟨hs.waiting, List.forall_mem_append.2 ⟨habove, hbelow⟩⟩,
      List.forall_mem_singleton.2 (.region hm hlast)⟩
  · rw [h]
    exact ⟨⟨hs.waiting, hs.stack⟩, List.forall_mem_nil _⟩

/-- The markers that wait stand before the line that they are bound to. -/
theorem placed_bindTo {s : State} {l : Comment.Line}
    {before lastLine : LineNumber} (hs : s.UpTo before)
    (hbefore : before < l.number) (hlast : l.number ≤ lastLine) :
    (bindTo s l).1.UpTo l.number
      ∧ ∀ a ∈ (bindTo s l).2.annotations,
          Placed a.marker lastLine a.scope := by
  refine ⟨⟨List.forall_mem_nil _, (hs.mono (Int.le_of_lt hbefore)).stack⟩,
    fun a ha => ?_⟩
  obtain ⟨m, hm, rfl⟩ := List.mem_map.1 ha
  exact .declaration (Int.lt_of_le_of_lt (hs.waiting m hm) hbefore) hlast

/-- A line that is fed after those of the markers that wait or are open
places what it brings behind them, and its own marker is the last then. -/
theorem placed_step {s : State} {e : Event} {before line lastLine : LineNumber}
    (hs : s.UpTo before) (he : e.lineNumber? = some line)
    (hbefore : before < line) (hlast : line ≤ lastLine) :
    (step s e).1.UpTo line
      ∧ ∀ a ∈ (step s e).2.annotations, Placed a.marker lastLine a.scope := by
  have hs' := hs.mono (Int.le_of_lt hbefore)
  cases e with
  | inline m =>
      injection he with he
      have hm : ∀ x ∈ [m], x.line ≤ line :=
        List.forall_mem_singleton.2 (Int.le_of_eq he)
      exact ⟨⟨List.forall_mem_append.2 ⟨hs'.waiting, hm⟩, hs'.stack⟩,
        List.forall_mem_nil _⟩
  | blockBegin m =>
      injection he with he
      exact ⟨⟨hs'.waiting,
        List.forall_mem_cons.2 ⟨Int.le_of_eq he, hs'.stack⟩⟩,
        List.forall_mem_nil _⟩
  | blockEnd number key =>
      injection he with he
      subst he
      exact placed_closeBlock hs' hlast key
  | unrecognized => cases he
  | line l =>
      injection he with he
      subst he
      cases hl : l.isIdle with
      | true =>
          rw [step_idle hl]
          exact ⟨hs', List.forall_mem_nil _⟩
      | false =>
          rw [step_content hl]
          exact placed_bindTo hs hbefore hlast

/-- Lines that are fed in order, behind the markers that wait or are open,
place all that they bring. -/
theorem placed_steps {s : State} {events : List Event}
    {before lastLine : LineNumber} (hs : s.UpTo before)
    (hle : before ≤ lastLine)
    (hsorted : (events.filterMap Event.lineNumber?).Pairwise (· < ·))
    (hinside : ∀ n ∈ events.filterMap Event.lineNumber?,
      before < n ∧ n ≤ lastLine) :
    (steps s events).1.UpTo lastLine
      ∧ ∀ a ∈ (steps s events).2.annotations,
          Placed a.marker lastLine a.scope := by
  induction events generalizing s before with
  | nil => exact ⟨hs.mono hle, List.forall_mem_nil _⟩
  | cons e rest ih =>
      rw [steps_cons, Outcome.annotations_append]
      cases he : e.lineNumber? with
      | none =>
          -- only a line that is not understood comes without a number
          rw [List.filterMap_cons_none he] at hsorted hinside
          cases e with
          | unrecognized =>
              have hs' : (step s .unrecognized).1.UpTo before :=
                ⟨hs.waiting, hs.stack⟩
              exact ih hs' hle hsorted hinside
          | inline _ | blockBegin _ | blockEnd _ _ | line _ => cases he
      | some line =>
          rw [List.filterMap_cons_some he] at hsorted hinside
          obtain ⟨hbefore, hlast⟩ := hinside line (List.mem_cons_self ..)
          obtain ⟨hlater, hsorted⟩ := List.pairwise_cons.1 hsorted
          obtain ⟨hup, hfirst⟩ := placed_step hs he hbefore hlast
          obtain ⟨hfinal, hrest⟩ := ih hup hlast hsorted fun n hn =>
            ⟨hlater n hn, (hinside n (List.mem_cons_of_mem _ hn)).2⟩
          refine ⟨hfinal, fun a ha => ?_⟩
          rcases List.mem_append.1 ha with ha | ha
          · exact hfirst a ha
          · exact hrest a ha

-- ============================================================= markers

/-- The marker of an annotation that is fed with a line. -/
def Event.marker? : Event → Option Marker
  | .inline m => some m
  | .blockBegin m => some m
  | _ => none

theorem lineNumber?_of_marker? {e : Event} {m : Marker}
    (h : e.marker? = some m) : e.lineNumber? = some m.line := by
  cases e with
  | inline _ | blockBegin _ =>
      injection h with h
      rw [← h]
      rfl
  | blockEnd _ _ | unrecognized | line _ => cases h

/-- The markers of annotations are the inline markers and the begin
markers. -/
theorem filterMap_marker?_perm (events : List Event) :
    (events.filterMap Event.marker?).Perm
      (events.filterMap Event.inlineMarker?
        ++ events.filterMap Event.beginMarker?) := by
  induction events with
  | nil => exact List.Perm.refl _
  | cons e rest ih =>
      cases e with
      | inline m => exact ih.cons m
      | blockBegin m => exact (ih.cons m).trans List.perm_middle.symm
      | blockEnd _ _ | unrecognized | line _ => exact ih

-- ========================================================== whole files

section File

variable {events : List Event} {lastLine : LineNumber}

/-- The annotations of a file: those that its lines bring, then those of the
markers that wait or are open at its end. -/
theorem annotations_bind (events : List Event) (lastLine : LineNumber) :
    (bind events lastLine).annotations
      = (steps .start events).2.annotations
        ++ ((steps .start events).1.waiting.map
              (⟨·, leftover events lastLine, false⟩)
          ++ (steps .start events).1.stack.reverse.map
              fun m => ⟨m, .region m.line (max lastLine 1), true⟩) := by
  rw [bind_eq, Outcome.annotations_append,
    annotations_finish (finished_steps ..)]
  rfl

/-- Every scope in a file of numbered lines is placed. -/
theorem placed_bind
    (hsorted : (events.filterMap Event.lineNumber?).Pairwise (· < ·))
    (hinside : ∀ n ∈ events.filterMap Event.lineNumber?, 0 < n ∧ n ≤ lastLine)
    (hlast : 1 ≤ lastLine) {a : Annotation}
    (ha : a ∈ (bind events lastLine).annotations) :
    Placed a.marker lastLine a.scope := by
  have hstart : State.start.UpTo 0 :=
    ⟨List.forall_mem_nil _, List.forall_mem_nil _⟩
  obtain ⟨hup, hread⟩ := placed_steps hstart
    (Int.le_of_lt hlast) hsorted hinside
  have hmax : max lastLine 1 = lastLine := Int.max_eq_left hlast
  rw [annotations_bind, hmax] at ha
  rcases List.mem_append.1 ha with ha | ha
  · exact hread a ha
  · rcases List.mem_append.1 ha with ha | ha
    · obtain ⟨m, -, rfl⟩ := List.mem_map.1 ha
      unfold leftover leftoverScope
      rw [hmax]
      split
      · exact .file
      · exact .trailing
    · obtain ⟨m, hm, rfl⟩ := List.mem_map.1 ha
      exact .region (hup.stack m (List.mem_reverse.1 hm)) (Int.le_refl _)

/-- The markers of a file that find no target share one scope. -/
theorem scope_of_isLeftover {a : Annotation}
    (ha : a ∈ (bind events lastLine).annotations)
    (h : a.isLeftover = true) : a.scope = leftover events lastLine := by
  rw [annotations_bind] at ha
  rcases List.mem_append.1 ha with ha | ha
  · rw [(resolved_steps ha).2] at h
    cases h
  · rcases List.mem_append.1 ha with ha | ha
    · obtain ⟨m, -, rfl⟩ := List.mem_map.1 ha
      rfl
    · obtain ⟨m, -, rfl⟩ := List.mem_map.1 ha
      cases h

/-- A salvaged block of a file is a region up to its last line. -/
theorem lastLine_of_salvaged {a : Annotation}
    (ha : a ∈ (bind events lastLine).annotations)
    (h : a.salvaged = true) :
    a.isBlock = true ∧ a.lastLine = max lastLine 1 := by
  rw [annotations_bind] at ha
  rcases List.mem_append.1 ha with ha | ha
  · rw [(resolved_steps ha).1] at h
    cases h
  · rcases List.mem_append.1 ha with ha | ha
    · obtain ⟨m, -, rfl⟩ := List.mem_map.1 ha
      cases h
    · obtain ⟨m, -, rfl⟩ := List.mem_map.1 ha
      exact ⟨rfl, rfl⟩

/-- In a file whose lines are numbered in order, no two annotations have
their markers on one line. -/
theorem nodup_firstLine
    (hsorted : (events.filterMap Event.lineNumber?).Pairwise (· < ·)) :
    ((bind events lastLine).annotations.map (·.firstLine)).Nodup := by
  have hparts : (bind events lastLine).annotations.Perm
      ((bind events lastLine).blocks ++ (bind events lastLine).inlines) :=
    (List.filter_append_perm ..).symm
  have hmarkers : ((bind events lastLine).annotations.map (·.marker)).Perm
      (events.filterMap Event.marker?) := by
    refine (hparts.map _).trans ?_
    rw [List.map_append]
    refine ((beginMarkers_perm ..).symm.append
      (inlineMarkers_perm ..).symm).trans ?_
    exact List.perm_append_comm.trans (filterMap_marker?_perm events).symm
  have hlines : ((events.filterMap Event.marker?).map (·.line)).Nodup := by
    rw [List.pairwise_filterMap] at hsorted
    refine List.pairwise_map.2 (List.pairwise_filterMap.2 ?_)
    refine hsorted.imp fun hab m hm m' hm' => ?_
    exact Int.ne_of_lt (hab _ (lineNumber?_of_marker? hm) _
      (lineNumber?_of_marker? hm'))
  have h := (hmarkers.map (·.line)).symm.nodup hlines
  rw [List.map_map] at h
  exact h

/-- An annotation is one of those that are picked exactly when its line is
reported. -/
theorem picked_iff_reported {view : Diagnostic → Option (LineNumber × Text)}
    {pick : Annotation → Bool} (hview : Reported view pick)
    (hsorted : (events.filterMap Event.lineNumber?).Pairwise (· < ·))
    {a : Annotation} (ha : a ∈ (bind events lastLine).annotations) :
    pick a = true
      ↔ ∃ d ∈ (bind events lastLine).diagnostics,
          ∃ key, view d = some (a.firstLine, key) := by
  have hall := hview.of_bind events lastLine
  constructor
  · intro hpick
    have hmem : (a.firstLine, a.key)
        ∈ (bind events lastLine).diagnostics.filterMap view := by
      rw [hall]
      exact List.mem_map.2 ⟨a, List.mem_filter.2 ⟨ha, hpick⟩, rfl⟩
    obtain ⟨d, hd, hview⟩ := List.mem_filterMap.1 hmem
    exact ⟨d, hd, a.key, hview⟩
  · rintro ⟨d, hd, key, hview⟩
    have hmem := List.mem_filterMap.2 ⟨d, hd, hview⟩
    rw [hall] at hmem
    obtain ⟨a', ha', heq⟩ := List.mem_map.1 hmem
    obtain ⟨ha', hpick⟩ := List.mem_filter.1 ha'
    injection heq with hline
    -- the key is not needed: the line alone tells annotations apart
    rwa [← List.inj_on_of_nodup_map (nodup_firstLine hsorted) ha' ha hline]

/-- A block is salvaged exactly when its line is reported as that of an
unclosed block. -/
theorem salvaged_iff_reported
    (hsorted : (events.filterMap Event.lineNumber?).Pairwise (· < ·))
    {a : Annotation} (ha : a ∈ (bind events lastLine).annotations) :
    a.salvaged = true
      ↔ ∃ d ∈ (bind events lastLine).diagnostics,
          d.kind = .unclosedBlock ∧ d.line = a.firstLine := by
  rw [picked_iff_reported reported_unclosed hsorted ha]
  exact exists_congr fun d => and_congr_right fun _ =>
    Diagnostic.unclosed?_eq_some

/-- An annotation applies to nothing exactly when its line is reported as
that of a marker without a target. -/
theorem trailing_iff_reported
    (hsorted : (events.filterMap Event.lineNumber?).Pairwise (· < ·))
    {a : Annotation} (ha : a ∈ (bind events lastLine).annotations) :
    a.isTrailing = true
      ↔ ∃ d ∈ (bind events lastLine).diagnostics,
          d.kind = .dangling ∧ d.line = a.firstLine := by
  rw [picked_iff_reported reported_dangling hsorted ha]
  exact exists_congr fun d => and_congr_right fun _ =>
    Diagnostic.dangling?_eq_some

/-- What is reported of a file stands on the line of an end marker or on
that of an annotation. -/
theorem line_of_mem_diagnostics {d : Diagnostic}
    (hd : d ∈ (bind events lastLine).diagnostics) :
    (∃ key, .blockEnd d.line key ∈ events)
      ∨ ∃ a ∈ (bind events lastLine).annotations, a.firstLine = d.line := by
  rw [bind_eq, Outcome.diagnostics_append] at hd
  rcases List.mem_append.1 hd with hd | hd
  · obtain ⟨key, -, hmem, -⟩ := blockEnd_of_mem_diagnostics_steps hd
    exact .inl ⟨key, hmem⟩
  · right
    rw [annotations_bind]
    rw [diagnostics_finish (finished_steps ..)] at hd
    rcases List.mem_append.1 hd with hd | hd
    · split at hd
      · cases hd
      · obtain ⟨m, hm, rfl⟩ := List.mem_map.1 hd
        exact ⟨_, List.mem_append_right _
          (List.mem_append_left _ (List.mem_map_of_mem hm)), rfl⟩
    · obtain ⟨m, hm, rfl⟩ := List.mem_map.1 hd
      exact ⟨_, List.mem_append_right _
        (List.mem_append_right _ (List.mem_map_of_mem hm)), rfl⟩

end File

end Marginalia.Binding
