/-
The texts that the binding hands on. It makes none up: its diagnostics speak
of the keys of markers that were fed, and the text of a declaration is that
of a line that was fed. One step takes its texts from
the state and the line (`texts_step`), so a whole file has no others than
its lines have (`texts_bind`).
-/
import Marginalia.Proofs.Binding.Run

namespace Marginalia

/-- The text of a line that a scope holds. -/
def Scope.texts : Scope → List Text
  | .declaration _ text => [text]
  | .file _ | .region _ _ | .trailing _ => []

/-- The texts that a message is put together of: the keys that it speaks of,
or the whole of it. -/
def Diagnostic.Cause.texts : Diagnostic.Cause → List Text
  | .unmatchedEnd key openKeys => key :: openKeys
  | .unclosedBlock key | .dangling key => [key]
  | cause => [cause.message]

namespace Binding

/-- The text that a line is fed with: the key of its marker, or the line
itself. -/
def Event.texts : Event → List Text
  | .inline m | .blockBegin m => [m.key]
  | .blockEnd _ key => [key]
  | .unrecognized => []
  | .line l => [l.raw]

/-- The keys of the markers that wait and of the open blocks. -/
def State.keys (s : State) : List Text :=
  s.waiting.map (·.key) ++ s.stack.map (·.key)

/-- The texts that are handed on. -/
def Outcome.texts (o : Outcome) : List Text :=
  o.annotations.flatMap (·.scope.texts) ++ o.diagnostics.flatMap (·.cause.texts)

theorem Outcome.mem_texts_append {a b : Outcome} {u : Text} :
    u ∈ (a ++ b).texts ↔ u ∈ a.texts ∨ u ∈ b.texts := by
  unfold texts
  rw [annotations_append, diagnostics_append]
  simp only [List.flatMap_append, List.mem_append]
  exact or_or_or_comm

/-- An end marker keeps the other blocks, and reports none but its own key
and theirs. -/
theorem texts_closeBlock (s : State) (line : LineNumber) (key : Text) :
    (closeBlock s line key).1.keys ⊆ s.keys
      ∧ (closeBlock s line key).2.texts ⊆ s.keys ++ [key] := by
  rcases closeBlock_cases s line key with ⟨m, left, ht, h⟩ | ⟨-, h⟩
  · obtain ⟨above, below, hstack, rfl, -⟩ := eq_of_takeNearest? ht
    rw [h]
    refine ⟨fun u hu => ?_, List.nil_subset _⟩
    simp only [State.keys, hstack, List.map_append, List.map_cons,
      List.mem_append, List.mem_cons] at hu ⊢
    grind
  · rw [h]
    refine ⟨List.Subset.refl _, fun u hu => ?_⟩
    simp only [Outcome.texts, Diagnostic.Cause.texts, State.keys,
      List.flatMap_nil, List.flatMap_cons, List.nil_append, List.append_nil,
      List.mem_cons, List.mem_append, List.not_mem_nil, or_false] at hu ⊢
    grind

/-- A step keeps and hands on no text but those of the state and of the
line. -/
theorem texts_step (s : State) (e : Event) :
    (step s e).1.keys ⊆ s.keys ++ e.texts
      ∧ (step s e).2.texts ⊆ s.keys ++ e.texts := by
  cases e with
  | inline m =>
      refine ⟨fun u hu => ?_, List.nil_subset _⟩
      simp only [step, State.keys, Event.texts, List.map_append,
        List.map_cons, List.map_nil, List.mem_append, List.mem_cons] at hu ⊢
      grind
  | blockBegin m =>
      refine ⟨fun u hu => ?_, List.nil_subset _⟩
      simp only [step, State.keys, Event.texts, List.map_cons,
        List.mem_append, List.mem_cons] at hu ⊢
      grind
  | blockEnd line key =>
      obtain ⟨hstate, houtcome⟩ := texts_closeBlock s line key
      exact ⟨List.subset_append_of_subset_left _ hstate, houtcome⟩
  | unrecognized =>
      exact ⟨List.subset_append_left .., List.nil_subset _⟩
  | line l =>
      cases hl : l.isIdle with
      | true =>
          rw [step_idle hl]
          exact ⟨List.subset_append_left .., List.nil_subset _⟩
      | false =>
          rw [step_content hl]
          refine ⟨fun u hu => ?_, fun u hu => ?_⟩
          · simp only [bindTo, State.keys, List.map_nil, List.nil_append]
              at hu
            exact List.mem_append_left _ (List.mem_append_right _ hu)
          · -- every marker that waited holds the line now
            simp only [bindTo, Outcome.texts, List.flatMap_map,
              List.flatMap_nil, List.append_nil] at hu
            obtain ⟨m, -, hu⟩ := List.mem_flatMap.1 hu
            exact List.mem_append_right _ hu

/-- A run keeps and hands on no text but those of the state and of the
lines. -/
theorem texts_steps (s : State) (events : List Event) :
    (steps s events).1.keys ⊆ s.keys ++ events.flatMap Event.texts
      ∧ (steps s events).2.texts ⊆ s.keys ++ events.flatMap Event.texts := by
  induction events generalizing s with
  | nil => exact ⟨List.subset_append_left .., List.nil_subset _⟩
  | cons e rest ih =>
      obtain ⟨hstate, houtcome⟩ := texts_step s e
      obtain ⟨hkeys, htexts⟩ := ih (step s e).1
      -- what the rest takes from the state between comes from the step
      have hcarry : (step s e).1.keys ++ rest.flatMap Event.texts
          ⊆ s.keys ++ (e :: rest).flatMap Event.texts := by
        rw [List.flatMap_cons, ← List.append_assoc]
        exact List.append_subset.2
          ⟨List.subset_append_of_subset_left _ hstate,
            List.subset_append_right ..⟩
      rw [steps_cons]
      refine ⟨List.Subset.trans hkeys hcarry, fun u hu => ?_⟩
      rcases Outcome.mem_texts_append.1 hu with hu | hu
      · have hfirst := houtcome hu
        rw [List.flatMap_cons, ← List.append_assoc]
        exact List.mem_append_left _ hfirst
      · exact hcarry (htexts hu)

/-- The end of a file reports keys of markers that wait or are open, and
binds none to a line. -/
theorem texts_finish {s : State} (h : s.finished = false)
    (lastLine : LineNumber) : (finish s lastLine).2.texts ⊆ s.keys := by
  intro u hu
  unfold Outcome.texts at hu
  rw [annotations_finish h, diagnostics_finish h] at hu
  rcases List.mem_append.1 hu with hu | hu
  · -- what is left at the end has no text
    obtain ⟨a, ha, hu⟩ := List.mem_flatMap.1 hu
    rcases List.mem_append.1 ha with ha | ha
    · obtain ⟨m, -, rfl⟩ := List.mem_map.1 ha
      unfold leftoverScope at hu
      cases hstart : s.waitingFromStart <;> rw [hstart] at hu <;> cases hu
    · obtain ⟨m, -, rfl⟩ := List.mem_map.1 ha
      cases hu
  · obtain ⟨d, hd, hu⟩ := List.mem_flatMap.1 hu
    rcases List.mem_append.1 hd with hd | hd
    · split at hd
      · cases hd
      · obtain ⟨m, hm, rfl⟩ := List.mem_map.1 hd
        rw [List.mem_singleton.1 hu]
        exact List.mem_append_left _ (List.mem_map_of_mem hm)
    · obtain ⟨m, hm, rfl⟩ := List.mem_map.1 hd
      rw [List.mem_singleton.1 hu]
      exact List.mem_append_right _
        (List.mem_map_of_mem (List.mem_reverse.1 hm))

/-- A file is bound with no texts but those of its lines. -/
theorem texts_bind (events : List Event) (lastLine : LineNumber) :
    (bind events lastLine).texts ⊆ events.flatMap Event.texts := by
  obtain ⟨hkeys, htexts⟩ := texts_steps .start events
  rw [bind_eq]
  intro u hu
  rcases Outcome.mem_texts_append.1 hu with hu | hu
  · exact htexts hu
  · exact hkeys (texts_finish (finished_steps .start events) lastLine hu)

end Binding

end Marginalia
