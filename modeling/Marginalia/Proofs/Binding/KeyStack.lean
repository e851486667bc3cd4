/-
What becomes of blocks. All open blocks lie on one stack, and an end marker
takes a block out of the middle of it when blocks with other keys lie
above. Seen from one key this is a plain stack: the blocks with that key
are pushed and popped in last-in-first-out order, whatever other keys do in
between.

# One key at a time

`KeyStack` is that plain stack. It is fed with the begin and end markers of
one key only, and `steps_keyStack` says that the run of all lines, looked
at through that key, is its run. What holds of a plain stack then holds of
every key: regions of one key are nested or disjoint, because a block that
is closed began after all blocks that stay open (`WellNested`).
-/
import Marginalia.Proofs.Binding.Run

namespace Marginalia.Binding

-- ============================================================== regions

/-- The lines of a block, and whether it was salvaged. -/
structure Region where
  first : LineNumber
  last : LineNumber
  salvaged : Bool
  deriving DecidableEq, Repr

/-- Two regions that do not cross: one lies behind the other or inside
it. -/
def Region.Laminar (a b : Region) : Prop :=
  a.last < b.first ∨ b.last < a.first
    ∨ (a.first ≤ b.first ∧ b.last ≤ a.last)
    ∨ (b.first ≤ a.first ∧ a.last ≤ b.last)

theorem Region.Laminar.symm {a b : Region} (h : a.Laminar b) :
    b.Laminar a := by
  rcases h with h | h | h | h
  · exact Or.inr (Or.inl h)
  · exact Or.inl h
  · exact Or.inr (Or.inr (Or.inr h))
  · exact Or.inr (Or.inr (Or.inl h))

-- ========================================================= a plain stack

/-- A begin or an end marker, when only one key is looked at. -/
inductive StackOp where
  | push (line : LineNumber)
  | pop (line : LineNumber)
  deriving DecidableEq, Repr

/-- The line of the marker. -/
def StackOp.line : StackOp → LineNumber
  | .push line => line
  | .pop line => line

/-- A plain stack: the begin lines on it, the innermost first, the regions
that were closed, and the lines of end markers that closed nothing. -/
structure KeyStack where
  begins : List LineNumber
  closed : List Region
  unmatched : List LineNumber

namespace KeyStack

/-- A begin marker pushes its line; an end marker pops the innermost begin
line, or closes nothing when there is none. -/
def step (k : KeyStack) : StackOp → KeyStack
  | .push line => { k with begins := line :: k.begins }
  | .pop line =>
    match k.begins with
    | [] => { k with unmatched := k.unmatched ++ [line] }
    | b :: rest =>
      { k with begins := rest, closed := k.closed ++ [⟨b, line, false⟩] }

/-- The stack after some markers. -/
def run (ops : List StackOp) : KeyStack := ops.foldl step ⟨[], [], []⟩

/-- All regions once the file ends: what is left on the stack is salvaged,
the outermost first. -/
def regions (k : KeyStack) (lastLine : LineNumber) : List Region :=
  k.closed ++ k.begins.reverse.map (⟨·, max lastLine 1, true⟩)

/-- The end markers that closed nothing have no influence on regions. -/
theorem regions_foldl_unmatched (ops : List StackOp)
    (begins : List LineNumber) (closed : List Region)
    (unmatched unmatched' : List LineNumber) (lastLine : LineNumber) :
    (ops.foldl step ⟨begins, closed, unmatched⟩).regions lastLine
      = (ops.foldl step ⟨begins, closed, unmatched'⟩).regions lastLine := by
  induction ops generalizing begins closed unmatched unmatched' with
  | nil => rfl
  | cons op rest ih =>
      cases op with
      | push n => exact ih ..
      | pop n =>
          cases begins with
          | nil => exact ih ..
          | cons b begins => exact ih ..

-- ======================================================= nested regions

/-- What holds between two markers of a stack fed in line order. A region
that is closed either lies inside an open block or before its begin
line. -/
structure WellNested (k : KeyStack) : Prop where
  inner : k.begins.Pairwise (· > ·)
  apart : ∀ r ∈ k.closed, ∀ b ∈ k.begins, b < r.first ∨ r.last < b
  laminar : ∀ r ∈ k.closed, ∀ r' ∈ k.closed, r.Laminar r'

/-- Everything on the stack happened before a line. -/
structure Before (k : KeyStack) (line : LineNumber) : Prop where
  begins : ∀ b ∈ k.begins, b < line
  closed : ∀ r ∈ k.closed, r.last < line

/-- A marker after everything on the stack keeps it well nested, and all of
it is before any later line. -/
theorem wellNested_step {k : KeyStack} (h : k.WellNested) {op : StackOp}
    (hop : k.Before op.line) :
    (k.step op).WellNested
      ∧ ∀ line, op.line < line → (k.step op).Before line := by
  cases op with
  | push n =>
      refine ⟨⟨?_, ?_, h.laminar⟩, fun line hlt => ⟨?_, ?_⟩⟩
      · exact List.pairwise_cons.2 ⟨hop.begins, h.inner⟩
      · intro r hr b hb
        rcases List.mem_cons.1 hb with rfl | hb
        · exact Or.inr (hop.closed r hr)
        · exact h.apart r hr b hb
      · intro b hb
        rcases List.mem_cons.1 hb with rfl | hb
        · exact hlt
        · exact Int.lt_trans (hop.begins b hb) hlt
      · intro r hr
        exact Int.lt_trans (hop.closed r hr) hlt
  | pop n =>
      obtain ⟨begins, closed, unmatched⟩ := k
      cases begins with
      | nil =>
          refine ⟨⟨h.inner, h.apart, h.laminar⟩, fun line hlt => ⟨?_, ?_⟩⟩
          · intro b hb
            cases hb
          · intro r hr
            exact Int.lt_trans (hop.closed r hr) hlt
      | cons b₀ rest =>
          obtain ⟨hb₀, hrest⟩ := List.pairwise_cons.1 h.inner
          -- the region that is closed holds or follows every earlier one
          have hnew : ∀ r ∈ closed, r.Laminar ⟨b₀, n, false⟩ := by
            intro r hr
            rcases h.apart r hr b₀ (List.mem_cons_self ..) with hin | hout
            · exact Or.inr (Or.inr (Or.inr
                ⟨Int.le_of_lt hin, Int.le_of_lt (hop.closed r hr)⟩))
            · exact Or.inl hout
          refine ⟨⟨hrest, ?_, ?_⟩, fun line hlt => ⟨?_, ?_⟩⟩
          · intro r hr b hb
            rcases List.mem_append.1 hr with hr | hr
            · exact h.apart r hr b (List.mem_cons_of_mem _ hb)
            · rw [List.mem_singleton.1 hr]
              exact Or.inl (hb₀ b hb)
          · intro r hr r' hr'
            rcases List.mem_append.1 hr with hr | hr
            · rcases List.mem_append.1 hr' with hr' | hr'
              · exact h.laminar r hr r' hr'
              · rw [List.mem_singleton.1 hr']
                exact hnew r hr
            · rw [List.mem_singleton.1 hr]
              rcases List.mem_append.1 hr' with hr' | hr'
              · exact (hnew r' hr').symm
              · rw [List.mem_singleton.1 hr']
                exact Or.inr (Or.inr (Or.inl
                  ⟨Int.le_refl _, Int.le_refl _⟩))
          · intro b hb
            exact Int.lt_trans (hop.begins b (List.mem_cons_of_mem _ hb)) hlt
          · intro r hr
            rcases List.mem_append.1 hr with hr | hr
            · exact Int.lt_trans (hop.closed r hr) hlt
            · rw [List.mem_singleton.1 hr]
              exact hlt

/-- Markers in line order leave a well-nested stack, all of it before any
line after them. -/
theorem wellNested_foldl {ops : List StackOp} {k : KeyStack}
    (h : k.WellNested) (hops : ops.Pairwise (·.line < ·.line))
    (hk : ∀ op ∈ ops, k.Before op.line) :
    (ops.foldl step k).WellNested
      ∧ ∀ line, k.Before line → (∀ op ∈ ops, op.line < line) →
        (ops.foldl step k).Before line := by
  induction ops generalizing k with
  | nil => exact ⟨h, fun line hb _ => hb⟩
  | cons op rest ih =>
      obtain ⟨hop, hrest⟩ := List.pairwise_cons.1 hops
      obtain ⟨hstep, hbefore⟩ :=
        wellNested_step h (hk op (List.mem_cons_self ..))
      obtain ⟨hwell, hall⟩ :=
        ih hstep hrest fun op' hmem => hbefore _ (hop op' hmem)
      refine ⟨hwell, fun line _ hlines => ?_⟩
      exact hall line (hbefore line (hlines op (List.mem_cons_self ..)))
        fun op' hmem => hlines op' (List.mem_cons_of_mem _ hmem)

/-- Nothing is before any line. -/
theorem before_empty (line : LineNumber) :
    (⟨[], [], []⟩ : KeyStack).Before line :=
  ⟨fun _ hb => absurd hb List.not_mem_nil,
    fun _ hr => absurd hr List.not_mem_nil⟩

theorem wellNested_run {ops : List StackOp}
    (h : ops.Pairwise (·.line < ·.line)) :
    (run ops).WellNested
      ∧ ∀ line, (∀ op ∈ ops, op.line < line) → (run ops).Before line := by
  have hempty : (⟨[], [], []⟩ : KeyStack).WellNested :=
    ⟨List.Pairwise.nil, fun _ hr => absurd hr List.not_mem_nil,
      fun _ hr => absurd hr List.not_mem_nil⟩
  obtain ⟨hwell, hall⟩ :=
    wellNested_foldl hempty h fun op _ => before_empty op.line
  exact ⟨hwell, fun line => hall line (before_empty line)⟩

/-- The regions of a well-nested stack do not cross, salvaged ones
included, when no closed one reaches past the end of the file. -/
theorem laminar_regions {k : KeyStack} (h : k.WellNested)
    {lastLine : LineNumber} (hlast : ∀ r ∈ k.closed, r.last ≤ lastLine) :
    ∀ a ∈ k.regions lastLine, ∀ b ∈ k.regions lastLine, a.Laminar b := by
  have hmax : ∀ r ∈ k.closed, r.last ≤ max lastLine 1 := fun r hr =>
    Int.le_trans (hlast r hr) (Int.le_max_left ..)
  have hopen : ∀ r ∈ k.closed, ∀ b ∈ k.begins,
      r.Laminar ⟨b, max lastLine 1, true⟩ := by
    intro r hr b hb
    rcases h.apart r hr b hb with hin | hout
    · exact Or.inr (Or.inr (Or.inr ⟨Int.le_of_lt hin, hmax r hr⟩))
    · exact Or.inl hout
  intro a ha b hb
  rcases List.mem_append.1 ha with ha | ha
  · rcases List.mem_append.1 hb with hb | hb
    · exact h.laminar a ha b hb
    · obtain ⟨n, hn, rfl⟩ := List.mem_map.1 hb
      exact hopen a ha n (List.mem_reverse.1 hn)
  · obtain ⟨n, hn, rfl⟩ := List.mem_map.1 ha
    rcases List.mem_append.1 hb with hb | hb
    · exact (hopen b hb n (List.mem_reverse.1 hn)).symm
    · obtain ⟨n', hn', rfl⟩ := List.mem_map.1 hb
      rcases Int.le_total n n' with hle | hle
      · exact Or.inr (Or.inr (Or.inl ⟨hle, Int.le_refl _⟩))
      · exact Or.inr (Or.inr (Or.inr ⟨hle, Int.le_refl _⟩))

end KeyStack

-- ========================================================= seen from a key

/-- What a line is for the stack of a key. -/
def Event.stackOp? (key : Text) : Event → Option StackOp
  | .blockBegin m => if m.key = key then some (.push m.line) else none
  | .blockEnd number k => if k = key then some (.pop number) else none
  | _ => none

/-- The number of a line that is fed; an annotation line without a key
comes without one. -/
def Event.lineNumber? : Event → Option LineNumber
  | .inline m => some m.line
  | .blockBegin m => some m.line
  | .blockEnd number _ => some number
  | .unrecognized => none
  | .line l => some l.number

/-- The lines of the open blocks with a key, the innermost first. -/
def beginsOf (key : Text) (s : State) : List LineNumber :=
  (s.stack.filter (·.key = key)).map (·.line)

/-- The blocks with a key that an outcome brings. -/
def regionsOf (key : Text) (o : Outcome) : List Region :=
  (o.blocks.filter (·.key = key)).map
    fun a => ⟨a.firstLine, a.lastLine, a.salvaged⟩

/-- The line of an end marker with a key that closed nothing. -/
def unmatchedLine? (key : Text) (d : Diagnostic) : Option LineNumber :=
  match d.cause with
  | .unmatchedEnd k _ => if k = key then some d.line else none
  | _ => none

/-- The lines of the end markers with a key that closed nothing. -/
def unmatchedOf (key : Text) (o : Outcome) : List LineNumber :=
  o.diagnostics.filterMap (unmatchedLine? key)

theorem regionsOf_append (key : Text) (a b : Outcome) :
    regionsOf key (a ++ b) = regionsOf key a ++ regionsOf key b := by
  unfold regionsOf
  rw [Outcome.blocks_append, List.filter_append, List.map_append]

theorem unmatchedOf_append (key : Text) (a b : Outcome) :
    unmatchedOf key (a ++ b) = unmatchedOf key a ++ unmatchedOf key b :=
  List.filterMap_append

/-- Binding inline markers brings no regions. -/
theorem regionsOf_bindTo (key : Text) (s : State) (l : Comment.Line) :
    regionsOf key (bindTo s l).2 = [] := by
  unfold regionsOf
  rw [blocks_bindTo]
  rfl

/-- An end marker, seen from a key: with that key it pops the stack of the
key, and with another one it does nothing. -/
theorem keyStack_closeBlock (key : Text) (s : State) (line : LineNumber)
    (k : Text) (closed : List Region) (unmatched : List LineNumber) :
    (if k = key then
        KeyStack.step ⟨beginsOf key s, closed, unmatched⟩ (.pop line)
      else ⟨beginsOf key s, closed, unmatched⟩)
      = ⟨beginsOf key (closeBlock s line k).1,
          closed ++ regionsOf key (closeBlock s line k).2,
          unmatched ++ unmatchedOf key (closeBlock s line k).2⟩ := by
  rcases closeBlock_cases s line k with ⟨m, left, ht, hc⟩ | ⟨ht, hc⟩
  · obtain ⟨above, below, hstack, rfl, hm, habove⟩ := eq_of_takeNearest? ht
    rw [hc]
    by_cases hk : k = key
    · subst hk
      -- so the block that is taken is the top of the stack of its key
      have hnone : above.filter (·.key = k) = [] :=
        List.filter_eq_nil_iff.2 fun x hx => by simpa using habove x hx
      have hbegins : beginsOf k s
          = m.line :: (below.filter (·.key = k)).map (·.line) := by
        simp [beginsOf, hstack, List.filter_append, hnone, hm]
      rw [if_pos rfl, hbegins]
      simp [KeyStack.step, beginsOf, List.filter_append, hnone, regionsOf,
        Outcome.blocks, unmatchedOf, Annotation.isBlock, Annotation.key, hm,
        Annotation.firstLine, Annotation.lastLine]
    · -- a block with another key leaves the stack of this one alone
      have hne : m.key ≠ key := fun h => hk (hm.symm.trans h)
      rw [if_neg hk]
      simp [beginsOf, hstack, List.filter_append, hne, regionsOf,
        Outcome.blocks, unmatchedOf, Annotation.isBlock, Annotation.key]
  · rw [hc]
    by_cases hk : k = key
    · subst hk
      have hbegins : beginsOf k s = [] := by
        unfold beginsOf
        rw [List.filter_eq_nil_iff.2]
        · rfl
        · intro x hx
          simpa using takeNearest?_eq_none_iff.1 ht x hx
      rw [if_pos rfl, hbegins]
      have hbegins' : beginsOf k { s with seenContent := true } = [] := hbegins
      simp [KeyStack.step, hbegins', regionsOf, Outcome.blocks, unmatchedOf,
        unmatchedLine?]
    · rw [if_neg hk]
      simp [beginsOf, regionsOf, Outcome.blocks, unmatchedOf, unmatchedLine?,
        hk]

/-- One line, seen from a key. -/
theorem keyStack_step (key : Text) (s : State) (e : Event)
    (closed : List Region) (unmatched : List LineNumber) :
    ((e.stackOp? key).toList.foldl KeyStack.step
        ⟨beginsOf key s, closed, unmatched⟩)
      = ⟨beginsOf key (step s e).1,
          closed ++ regionsOf key (step s e).2,
          unmatched ++ unmatchedOf key (step s e).2⟩ := by
  cases e with
  | inline m => simp [Event.stackOp?, step, beginsOf, regionsOf, unmatchedOf]
  | blockBegin m =>
      by_cases hk : m.key = key
      · simp [Event.stackOp?, step, beginsOf, regionsOf, unmatchedOf, hk,
          KeyStack.step]
      · simp [Event.stackOp?, step, beginsOf, regionsOf, unmatchedOf, hk]
  | blockEnd line k =>
      rw [show step s (.blockEnd line k) = closeBlock s line k from rfl,
        ← keyStack_closeBlock]
      by_cases hk : k = key
      · simp [Event.stackOp?, hk]
      · simp [Event.stackOp?, hk]
  | unrecognized =>
      simp [Event.stackOp?, step, beginsOf, regionsOf, unmatchedOf]
  | line l =>
      cases hl : l.isIdle with
      | true =>
          rw [step_idle hl]
          simp [Event.stackOp?, regionsOf, unmatchedOf]
      | false =>
          rw [step_content hl, regionsOf_bindTo]
          simp [Event.stackOp?, bindTo, beginsOf, unmatchedOf]

/-- A run of lines, seen from a key, is a run of the stack of that key. -/
theorem keyStack_steps (key : Text) (s : State) (events : List Event)
    (closed : List Region) (unmatched : List LineNumber) :
    ((events.filterMap (·.stackOp? key)).foldl KeyStack.step
        ⟨beginsOf key s, closed, unmatched⟩)
      = ⟨beginsOf key (steps s events).1,
          closed ++ regionsOf key (steps s events).2,
          unmatched ++ unmatchedOf key (steps s events).2⟩ := by
  induction events generalizing s closed unmatched with
  | nil => simp [steps, regionsOf, unmatchedOf]
  | cons e rest ih =>
      have hcons : (e :: rest).filterMap (·.stackOp? key)
          = (e.stackOp? key).toList ++ rest.filterMap (·.stackOp? key) := by
        cases h : e.stackOp? key <;> simp [h]
      rw [hcons, List.foldl_append, keyStack_step, ih, steps_cons,
        regionsOf_append, unmatchedOf_append, List.append_assoc,
        List.append_assoc]

/-- The run of the stack of a key over the lines of a file. -/
def keyStack (key : Text) (events : List Event) : KeyStack :=
  .run (events.filterMap (·.stackOp? key))

theorem keyStack_eq (key : Text) (events : List Event) :
    keyStack key events
      = ⟨beginsOf key (steps .start events).1,
          regionsOf key (steps .start events).2,
          unmatchedOf key (steps .start events).2⟩ :=
  keyStack_steps key .start events [] []

-- =========================================================== whole files

/-- The regions with a key are those of its stack. -/
theorem regionsOf_bind (key : Text) (events : List Event)
    (lastLine : LineNumber) :
    regionsOf key (bind events lastLine)
      = (keyStack key events).regions lastLine := by
  have hfin : regionsOf key (finish (steps .start events).1 lastLine).2
      = (beginsOf key (steps .start events).1).reverse.map
          (⟨·, max lastLine 1, true⟩) := by
    unfold regionsOf beginsOf
    rw [blocks_finish (finished_steps ..), List.filter_map, List.map_map,
      ← List.map_reverse, ← List.filter_reverse, List.map_map]
    rfl
  rw [bind_eq, regionsOf_append, hfin, keyStack_eq]
  rfl

/-- The end markers with a key that closed nothing are those of its
stack. -/
theorem unmatchedOf_bind (key : Text) (events : List Event)
    (lastLine : LineNumber) :
    unmatchedOf key (bind events lastLine)
      = (keyStack key events).unmatched := by
  have hfin : unmatchedOf key (finish (steps .start events).1 lastLine).2
      = [] := by
    unfold unmatchedOf
    rw [diagnostics_finish (finished_steps ..)]
    refine List.filterMap_eq_nil_iff.2 fun d hd => ?_
    rcases List.mem_append.1 hd with hd | hd
    · split at hd
      · cases hd
      · obtain ⟨m, -, rfl⟩ := List.mem_map.1 hd
        rfl
    · obtain ⟨m, -, rfl⟩ := List.mem_map.1 hd
      rfl
  rw [bind_eq, unmatchedOf_append, hfin, List.append_nil, keyStack_eq]

/-- Markers of a key have the numbers of their lines. -/
theorem lineNumber?_of_stackOp? {key : Text} {e : Event} {op : StackOp}
    (h : e.stackOp? key = some op) : e.lineNumber? = some op.line := by
  cases e with
  | blockBegin m =>
      simp only [Event.stackOp?, Option.ite_none_right_eq_some,
        Option.some.injEq] at h
      rw [← h.2]
      rfl
  | blockEnd line k =>
      simp only [Event.stackOp?, Option.ite_none_right_eq_some,
        Option.some.injEq] at h
      rw [← h.2]
      rfl
  | inline _ | unrecognized | line _ => cases h

/-- The markers of a key are fed in line order when all lines are. -/
theorem pairwise_stackOps {events : List Event}
    (h : (events.filterMap Event.lineNumber?).Pairwise (· < ·)) (key : Text) :
    (events.filterMap (·.stackOp? key)).Pairwise (·.line < ·.line) := by
  rw [List.pairwise_filterMap] at h ⊢
  refine h.imp fun hab op hop op' hop' => ?_
  exact hab _ (lineNumber?_of_stackOp? hop) _ (lineNumber?_of_stackOp? hop')

/-- An end marker that finds the stack of its key empty leaves it as it
is. -/
theorem keyStack_unmatched {key : Text} {before : List Event}
    (h : (keyStack key before).begins = []) (line : LineNumber)
    (after : List Event) (other : Text) (lastLine : LineNumber) :
    (keyStack other (before ++ .blockEnd line key :: after)).regions lastLine
      = (keyStack other (before ++ after)).regions lastLine := by
  unfold keyStack KeyStack.run at h ⊢
  rw [List.filterMap_append, List.filterMap_append, List.foldl_append,
    List.foldl_append]
  by_cases hk : key = other
  · subst hk
    rw [List.filterMap_cons_some
      (show (Event.blockEnd line key).stackOp? key = some (.pop line) from
        if_pos rfl), List.foldl_cons]
    generalize (before.filterMap (·.stackOp? key)).foldl KeyStack.step
      ⟨[], [], []⟩ = k at h ⊢
    obtain ⟨begins, closed, unmatched⟩ := k
    simp only at h
    subst h
    exact KeyStack.regions_foldl_unmatched ..
  · rw [List.filterMap_cons_none
      (show (Event.blockEnd line key).stackOp? other = none from if_neg hk)]

/-- Blocks and unmatched end markers of one key are those of a plain stack
that is fed with the markers of that key alone; so an end marker that
closes nothing changes no block, and blocks with one key never cross. -/
theorem blocks_of_key (events : List Event) (lastLine : LineNumber)
    (key : Text) :
    regionsOf key (bind events lastLine)
        = (KeyStack.run
            (events.filterMap (·.stackOp? key))).regions lastLine
      ∧ unmatchedOf key (bind events lastLine)
        = (KeyStack.run (events.filterMap (·.stackOp? key))).unmatched
      ∧ (∀ before after line k, events = before ++ .blockEnd line k :: after →
          (KeyStack.run (before.filterMap (·.stackOp? k))).begins = [] →
          regionsOf key (bind events lastLine)
            = regionsOf key (bind (before ++ after) lastLine))
      ∧ ((events.filterMap Event.lineNumber?).Pairwise (· < ·) →
          (∀ n ∈ events.filterMap Event.lineNumber?, n ≤ lastLine) →
          ∀ a ∈ regionsOf key (bind events lastLine),
            ∀ b ∈ regionsOf key (bind events lastLine), a.Laminar b) := by
  refine ⟨regionsOf_bind .., unmatchedOf_bind .., ?_, ?_⟩
  · rintro before after line k rfl hempty
    rw [regionsOf_bind, regionsOf_bind]
    exact keyStack_unmatched hempty line after key lastLine
  · intro hsorted hlast
    rw [regionsOf_bind]
    obtain ⟨hwell, hbefore⟩ :=
      KeyStack.wellNested_run (pairwise_stackOps hsorted key)
    refine KeyStack.laminar_regions hwell fun r hr => ?_
    refine Int.lt_add_one_iff.1 ((hbefore (lastLine + 1) ?_).closed r hr)
    intro op hop
    obtain ⟨e, he, hop⟩ := List.mem_filterMap.1 hop
    exact Int.lt_add_one_iff.2 (hlast _
      (List.mem_filterMap.2 ⟨e, he, lineNumber?_of_stackOp? hop⟩))

/-- Two blocks with one key around an end marker of another key, and a block
that is never closed. -/
theorem blocks_of_key_interleaved :
    ∀ a ∈ regionsOf "a"
        (bind [.blockBegin ⟨1, "a", .empty⟩, .blockBegin ⟨2, "b", .empty⟩,
          .blockBegin ⟨3, "a", .empty⟩, .blockEnd 4 "a", .blockEnd 5 "b",
          .blockEnd 6 "b"] 7),
      ∀ b ∈ regionsOf "a"
        (bind [.blockBegin ⟨1, "a", .empty⟩, .blockBegin ⟨2, "b", .empty⟩,
          .blockBegin ⟨3, "a", .empty⟩, .blockEnd 4 "a", .blockEnd 5 "b",
          .blockEnd 6 "b"] 7), a.Laminar b :=
  (blocks_of_key _ 7 "a").2.2.2 (by decide) (by decide)

end Marginalia.Binding
