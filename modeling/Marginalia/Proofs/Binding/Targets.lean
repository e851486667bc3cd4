/-
What becomes of inline markers. A marker has a target when a line with
content comes after it, and its target is the first such line; between a
marker and its target there may be idle lines, other markers and annotation
lines without a key.

# What a run does to inline markers

`bindings` lists the markers that wait before a run and those that the run
meets, in order, each with its target in the run. The run binds the ones
that have a target, in that order (`inlines_steps`), and the others wait
when it ends (`waiting_steps`). Over a whole file the ones without a target
share one scope, which depends on what came before the first of them only
(`waitingFromStart_steps`).
-/
import Marginalia.Proofs.Binding.Run

namespace Marginalia.Binding

-- ============================================================== targets

/-- The line with content that an event is, if it is one. -/
def Event.content? : Event → Option Comment.Line
  | .line l => if l.isIdle then none else some l
  | _ => none

/-- The next line with content. -/
def nextContent? (events : List Event) : Option Comment.Line :=
  events.findSome? Event.content?

/-- The inline markers of some lines in order, each with its target among
these lines. -/
def targets : List Event → List (Marker × Option Comment.Line)
  | [] => []
  | .inline m :: rest => (m, nextContent? rest) :: targets rest
  | _ :: rest => targets rest

/-- The inline markers that a run has to deal with: those that wait before
it, then those that it meets. -/
def bindings (s : State) (events : List Event) :
    List (Marker × Option Comment.Line) :=
  s.waiting.map (·, nextContent? events) ++ targets events

/-- The annotation of a marker that has a target. -/
def declared? : Marker × Option Comment.Line → Option Annotation
  | (m, some l) => some ⟨m, .declaration l.number l.raw, false⟩
  | (_, none) => none

/-- The marker, if it has no target. -/
def unbound? : Marker × Option Comment.Line → Option Marker
  | (_, some _) => none
  | (m, none) => some m

theorem nextContent?_append (first rest : List Event) :
    nextContent? (first ++ rest)
      = (nextContent? first).or (nextContent? rest) :=
  List.findSome?_append

/-- The markers of a first stretch of lines may have their targets in the
rest. -/
theorem targets_append (first rest : List Event) :
    targets (first ++ rest)
      = (targets first).map (fun b => (b.1, b.2.or (nextContent? rest)))
        ++ targets rest := by
  induction first with
  | nil => rfl
  | cons e first ih =>
      cases e with
      | inline m =>
          show (m, nextContent? (first ++ rest)) :: targets (first ++ rest) = _
          rw [ih, nextContent?_append]
          rfl
      | blockBegin m => exact ih
      | blockEnd line key => exact ih
      | unrecognized => exact ih
      | line l => exact ih

/-- Markers that all have the same target are all bound to it. -/
theorem filterMap_declared?_map (ms : List Marker) (l : Comment.Line) :
    (ms.map (·, some l)).filterMap declared?
      = ms.map fun m => ⟨m, .declaration l.number l.raw, false⟩ := by
  rw [List.filterMap_map, ← List.filterMap_eq_map]
  rfl

theorem filterMap_unbound?_map (ms : List Marker) (l : Comment.Line) :
    (ms.map (·, some l)).filterMap unbound? = [] := by
  rw [List.filterMap_map]
  exact List.filterMap_eq_nil_iff.2 fun _ _ => rfl

/-- Having no target and standing on a line are independent. -/
theorem filter_filterMap_unbound? (m : LineNumber)
    (bs : List (Marker × Option Comment.Line)) :
    (bs.filterMap unbound?).filter (·.line == m)
      = (bs.filter (·.1.line == m)).filterMap unbound? := by
  rw [List.filter_filterMap, List.filterMap_filter]
  congr 1
  funext b
  obtain ⟨mk, t⟩ := b
  cases t with
  | some l => simp [unbound?]
  | none => simp [unbound?, Option.filter]

-- ============================================================= one line

/-- End markers bring no inline annotation and leave the waiting markers
alone. -/
theorem inlines_closeBlock (s : State) (line : LineNumber) (key : Text) :
    (closeBlock s line key).2.inlines = []
      ∧ (closeBlock s line key).1.waiting = s.waiting := by
  rcases closeBlock_cases s line key with ⟨m, left, -, h⟩ | ⟨-, h⟩
  · rw [h]
    exact ⟨rfl, rfl⟩
  · rw [h]
    exact ⟨rfl, rfl⟩

/-- One line accounts for the inline markers: the ones it binds are the
first of those that have a target, and it leaves the rest to the lines
after it. -/
theorem bindings_step (s : State) (e : Event) (rest : List Event) :
    (bindings s (e :: rest)).filterMap declared?
        = (step s e).2.inlines
          ++ (bindings (step s e).1 rest).filterMap declared?
      ∧ (bindings s (e :: rest)).filterMap unbound?
        = (bindings (step s e).1 rest).filterMap unbound? := by
  cases e with
  | inline m =>
      -- the marker moves from what is fed to what waits
      have h : bindings (step s (.inline m)).1 rest
          = bindings s (.inline m :: rest) := by
        show (s.waiting ++ [m]).map _ ++ targets rest = _
        rw [List.map_append, List.append_assoc]
        rfl
      rw [h]
      exact ⟨rfl, rfl⟩
  | blockBegin m => exact ⟨rfl, rfl⟩
  | blockEnd line key =>
      obtain ⟨hi, hw⟩ := inlines_closeBlock s line key
      have h : bindings (step s (.blockEnd line key)).1 rest
          = bindings s (.blockEnd line key :: rest) := by
        show ((closeBlock s line key).1.waiting).map _ ++ targets rest = _
        rw [hw]
        rfl
      rw [h]
      refine ⟨?_, rfl⟩
      show _ = (closeBlock s line key).2.inlines ++ _
      rw [hi]
      rfl
  | unrecognized => exact ⟨rfl, rfl⟩
  | line l =>
      cases hl : l.isIdle with
      | true =>
          have h : bindings s (.line l :: rest) = bindings s rest := by
            simp [bindings, nextContent?, Event.content?, targets, hl]
          rw [h, step_idle hl]
          exact ⟨rfl, rfl⟩
      | false =>
          have h : bindings s (.line l :: rest)
              = s.waiting.map (·, some l) ++ targets rest := by
            simp [bindings, nextContent?, Event.content?, targets, hl]
          rw [h, step_content hl, inlines_bindTo, List.filterMap_append,
            List.filterMap_append, filterMap_declared?_map,
            filterMap_unbound?_map]
          exact ⟨rfl, rfl⟩

-- ================================================================= runs

/-- A run binds the markers that have a target, in their order. -/
theorem inlines_steps (s : State) (events : List Event) :
    (steps s events).2.inlines = (bindings s events).filterMap declared? := by
  induction events generalizing s with
  | nil =>
      show [] = (s.waiting.map (·, none) ++ []).filterMap declared?
      rw [List.append_nil, List.filterMap_map]
      exact (List.filterMap_eq_nil_iff.2 fun _ _ => rfl).symm
  | cons e rest ih =>
      rw [steps_cons, Outcome.inlines_append, ih, (bindings_step s e rest).1]

/-- The markers that have no target wait at the end of a run. -/
theorem waiting_steps (s : State) (events : List Event) :
    (steps s events).1.waiting = (bindings s events).filterMap unbound? := by
  induction events generalizing s with
  | nil =>
      show s.waiting = (s.waiting.map (·, none) ++ []).filterMap unbound?
      rw [List.append_nil, List.filterMap_map]
      exact (List.filterMap_some ..).symm
  | cons e rest ih => rw [steps_cons, ih, (bindings_step s e rest).2]

/-- Once a marker waits, what came before the first waiting marker is
settled until the next line with content. -/
theorem waitingFromStart_keep {s : State} {events : List Event}
    (hw : s.waiting ≠ []) (hn : nextContent? events = none) :
    (steps s events).1.waitingFromStart = s.waitingFromStart := by
  induction events generalizing s with
  | nil => rfl
  | cons e rest ih =>
      have hrest : nextContent? rest = none :=
        List.findSome?_eq_none_iff.2 fun x hx =>
          List.findSome?_eq_none_iff.1 hn x (List.mem_cons_of_mem _ hx)
      rw [steps_cons]
      cases e with
      | inline m =>
          have hne : (step s (.inline m)).1.waiting ≠ [] := by
            show s.waiting ++ [m] ≠ []
            simp
          rw [ih hne hrest]
          show (if s.waiting.isEmpty then !s.seenContent
            else s.waitingFromStart) = _
          rw [if_neg (by simpa using hw)]
      | blockBegin m => exact ih hw hrest
      | blockEnd line key =>
          show (steps (closeBlock s line key).1 rest).1.waitingFromStart = _
          rcases closeBlock_cases s line key with ⟨m, left, -, h⟩ | ⟨-, h⟩
          · rw [h]; exact ih hw hrest
          · rw [h]; exact ih hw hrest
      | unrecognized => exact ih hw hrest
      | line l =>
          cases hl : l.isIdle with
          | true => rw [step_idle hl]; exact ih hw hrest
          | false =>
              -- a line with content is what `hn` rules out
              have := List.findSome?_eq_none_iff.1 hn _ (List.mem_cons_self ..)
              simp [Event.content?, hl] at this

/-- Whether the markers without a target apply to the whole file depends on
the lines before the first of them: all of these must be idle. -/
theorem waitingFromStart_steps {before after : List Event} {m : Marker}
    (hb : ∀ b ∈ targets before, b.2 ≠ none)
    (ha : nextContent? after = none) :
    (steps .start (before ++ .inline m :: after)).1.waitingFromStart
      = before.all (·.isIdle) := by
  have hwait : (steps .start before).1.waiting = [] := by
    rw [waiting_steps]
    refine List.filterMap_eq_nil_iff.2 fun b hmem => ?_
    obtain ⟨m', t⟩ := b
    cases t with
    | none => exact absurd rfl (hb _ hmem)
    | some l => rfl
  have hseen : (steps .start before).1.seenContent
      = !before.all (·.isIdle) := by
    rw [seenContent_steps, List.not_all_eq_any_not]
    rfl
  have hne : (step (steps .start before).1 (.inline m)).1.waiting ≠ [] := by
    show _ ++ [m] ≠ []
    simp
  rw [steps_append, steps_cons]
  show (steps (step (steps .start before).1 (.inline m)).1
    after).1.waitingFromStart = _
  rw [waitingFromStart_keep hne ha]
  show (if (steps .start before).1.waiting.isEmpty
    then !(steps .start before).1.seenContent
    else (steps .start before).1.waitingFromStart) = _
  rw [hwait, hseen]
  simp

/-- Where some marker has no target there is a first such one: the markers
before it all have their targets before it. -/
theorem exists_first_unbound {events : List Event} {m : Marker}
    (h : (m, none) ∈ targets events) :
    ∃ before first after, events = before ++ .inline first :: after
      ∧ nextContent? after = none ∧ ∀ b ∈ targets before, b.2 ≠ none := by
  induction events with
  | nil => cases h
  | cons e rest ih =>
      cases e with
      | inline m' =>
          cases hn : nextContent? rest with
          | none => exact ⟨[], m', rest, rfl, hn, by simp [targets]⟩
          | some l =>
              have hmem : (m, none) ∈ targets rest := by
                rcases List.mem_cons.1 h with heq | hmem
                · rw [hn] at heq
                  cases heq
                · exact hmem
              obtain ⟨before, first, after, rfl, ha, hb⟩ := ih hmem
              refine ⟨.inline m' :: before, first, after, rfl, ha, ?_⟩
              intro b hb'
              rcases List.mem_cons.1 hb' with rfl | hb'
              · intro (hnone : nextContent? before = none)
                have hnil : nextContent? (.inline first :: after) = none := ha
                rw [nextContent?_append, hnone, hnil] at hn
                cases hn
              · exact hb b hb'
      | blockBegin _ | blockEnd _ _ | unrecognized | line _ =>
          obtain ⟨before, first, after, rfl, ha, hb⟩ := ih h
          exact ⟨_ :: before, first, after, rfl, ha, hb⟩

-- =========================================================== whole files

/-- What becomes of an inline marker with this target, when those without
one share a scope. -/
def bound (leftover : Scope) : Marker × Option Comment.Line → Annotation
  | (m, some l) => ⟨m, .declaration l.number l.raw, false⟩
  | (m, none) => ⟨m, leftover, false⟩

/-- The scope of the inline markers of a file that have no target. -/
def leftover (events : List Event) (lastLine : LineNumber) : Scope :=
  leftoverScope (steps .start events).1.waitingFromStart (max lastLine 1)

/-- The inline annotations of a file: first the markers that have a target,
then the others. -/
theorem inlines_bind (events : List Event) (lastLine : LineNumber) :
    (bind events lastLine).inlines
      = (targets events).filterMap declared?
        ++ ((targets events).filterMap unbound?).map
          (⟨·, leftover events lastLine, false⟩) := by
  rw [bind_eq, Outcome.inlines_append, inlines_finish (finished_steps ..),
    inlines_steps, waiting_steps]
  rfl

/-- Every inline marker of a file becomes one inline annotation. -/
theorem inlines_bind_perm (events : List Event) (lastLine : LineNumber) :
    (bind events lastLine).inlines.Perm
      ((targets events).map (bound (leftover events lastLine))) := by
  rw [inlines_bind]
  induction targets events with
  | nil => exact List.Perm.refl _
  | cons b rest ih =>
      obtain ⟨m, t⟩ := b
      cases t with
      | some l => exact ih.cons _
      | none => exact List.perm_middle.trans (ih.cons _)

/-- The inline markers that are reported at the end of a file: those
without a target, unless they apply to the whole file. -/
theorem dangling_bind (events : List Event) (lastLine : LineNumber) :
    (bind events lastLine).diagnostics.filter (·.kind == .dangling)
      = if (steps .start events).1.waitingFromStart then []
        else ((targets events).filterMap unbound?).map
          fun m => ⟨m.line, .dangling m.key⟩ := by
  have hsteps : (steps .start events).2.diagnostics.filter
      (·.kind == .dangling) = [] := by
    refine List.filter_eq_nil_iff.2 fun d hd => ?_
    rw [kind_of_mem_diagnostics_steps hd]
    decide
  have hopen : ∀ ms : List Marker,
      (ms.map fun m => (⟨m.line, .unclosedBlock m.key⟩ : Diagnostic)).filter
        (·.kind == .dangling) = [] := by
    intro ms
    refine List.filter_eq_nil_iff.2 fun d hd => ?_
    obtain ⟨m, -, rfl⟩ := List.mem_map.1 hd
    exact Bool.false_ne_true
  have hwait : (steps .start events).1.waiting
      = (targets events).filterMap unbound? := waiting_steps ..
  rw [bind_eq, Outcome.diagnostics_append, List.filter_append, hsteps,
    List.nil_append, diagnostics_finish (finished_steps ..),
    List.filter_append, hopen, List.append_nil, hwait]
  split
  · rfl
  · refine List.filter_eq_self.2 fun d hd => ?_
    obtain ⟨m, -, rfl⟩ := List.mem_map.1 hd
    rfl

end Marginalia.Binding
