/-
The pool of workers makes no difference to the results. Whatever the order
in which tasks are taken up and finished, a slot is written once, by its own
task, with the result of that task; and a pool that has a worker never gets
stuck before all tasks are finished.

# The run invariant

`Parted` is the whole engine: a task is pending, that is, it waits or is
under way, just as long as its slot is empty, and a slot that is not empty
holds the result of its task. To take up a task only moves it among the
pending ones; to finish it fills its slot.

# The measure

Every event of a run uses up one of the two that each task needs: a task that
waits has both before it, one that is under way has one left. So a run has at
most two events for each task, and it ends when no task is pending.
-/
import Marginalia.Batch.Pool
import Mathlib.Data.List.Nodup

namespace Marginalia.Pool

variable {α β : Type} {workers : Nat} {work : β → α} {tasks : List β}
variable {s s' : State α} {schedule more : List Event}

-- =============================================================== steps

/-- The tasks that are not finished. -/
def State.pending (s : State α) : List Nat := s.waiting ++ s.running

/-- The number of events that the tasks still need. -/
def State.toDo (s : State α) : Nat := 2 * s.waiting.length + s.running.length

/-- All that an event can do. -/
theorem step?_cases {e : Event} (h : step? workers work tasks s e = some s') :
    (∃ i ∈ s.waiting, e = .start i ∧ s' = { s with
        waiting := s.waiting.erase i, running := i :: s.running })
      ∨ ∃ i ∈ s.running, e = .finish i ∧ s' = { s with
        running := s.running.erase i
        slots := s.slots.set i (tasks[i]?.map work) } := by
  cases e with
  | start i =>
      simp only [step?] at h
      split at h
      · next hguard =>
        simp only [Bool.and_eq_true, List.contains_iff_mem] at hguard
        injection h with h
        exact .inl ⟨i, hguard.2, rfl, h.symm⟩
      · cases h
  | finish i =>
      simp only [step?] at h
      split at h
      · next hguard =>
        injection h with h
        exact .inr ⟨i, List.contains_iff_mem.1 hguard, rfl, h.symm⟩
      · cases h

/-- A task that waits can be taken up by a worker that is free. -/
theorem step?_start {i : Nat} (hfree : s.running.length < workers)
    (hi : i ∈ s.waiting) :
    (step? workers work tasks s (.start i)).isSome = true := by
  have hguard : (s.running.length < workers && s.waiting.contains i)
      = true := by simp [hfree, hi]
  simp only [step?, hguard, if_true, Option.isSome_some]

/-- A task that is under way can be finished. -/
theorem step?_finish {i : Nat} (hi : i ∈ s.running) :
    (step? workers work tasks s (.finish i)).isSome = true := by
  have hguard : s.running.contains i = true := by simp [hi]
  simp only [step?, hguard, if_true, Option.isSome_some]

-- ========================================================== the measure

/-- An event uses up one of those that the tasks need. -/
theorem toDo_step {e : Event} (h : step? workers work tasks s e = some s') :
    s'.toDo + 1 = s.toDo := by
  obtain ⟨i, hi, -, rfl⟩ | ⟨i, hi, -, rfl⟩ := step?_cases h
  · have hlength := List.length_erase_of_mem hi
    have hpos := List.length_pos_of_mem hi
    simp only [State.toDo, List.length_cons]
    omega
  · have hlength := List.length_erase_of_mem hi
    have hpos := List.length_pos_of_mem hi
    simp only [State.toDo]
    omega

theorem toDo_steps (h : steps? workers work tasks s schedule = some s') :
    s'.toDo + schedule.length = s.toDo := by
  induction schedule generalizing s with
  | nil =>
      injection h with h
      rw [h]
      rfl
  | cons e schedule ih =>
      simp only [steps?] at h
      split at h
      · cases h
      · next t ht =>
        have hstep := toDo_step ht
        have hsteps := ih h
        simp only [List.length_cons]
        omega

theorem steps?_append :
    steps? workers work tasks s (schedule ++ more)
      = (steps? workers work tasks s schedule).bind
        (steps? workers work tasks · more) := by
  induction schedule generalizing s with
  | nil => rfl
  | cons e schedule ih =>
      simp only [List.cons_append, steps?]
      cases step? workers work tasks s e with
      | none => rfl
      | some t => exact ih

-- ======================================================== the invariant

/-- A task is pending just as long as its slot is empty, and a slot that is
not empty holds the result of its task. -/
structure Parted (work : β → α) (tasks : List β) (s : State α) : Prop where
  nodup : s.pending.Nodup
  slots : ∀ i, s.slots[i]? = tasks[i]?.map fun b =>
    if i ∈ s.pending then none else some (work b)

theorem parted_idle : Parted work tasks (.idle tasks.length) where
  nodup := by
    show (List.range tasks.length ++ []).Nodup
    rw [List.append_nil]
    exact List.nodup_range
  slots i := by
    show (List.replicate tasks.length none)[i]? = _
    rw [List.getElem?_replicate]
    by_cases hi : i < tasks.length
    · simp [State.pending, State.idle, hi]
    · simp [hi]

/-- To take up a task only moves it among the pending ones. -/
theorem pending_start {i : Nat} (hi : i ∈ s.waiting) :
    ({ s with waiting := s.waiting.erase i, running := i :: s.running }
      : State α).pending.Perm s.pending := by
  show (s.waiting.erase i ++ i :: s.running).Perm (s.waiting ++ s.running)
  refine List.perm_middle.trans ?_
  rw [← List.cons_append]
  exact (List.perm_cons_erase hi).symm.append_right _

/-- To finish a task takes it out of the pending ones. -/
theorem pending_finish {i : Nat} (hnodup : s.pending.Nodup)
    (hi : i ∈ s.running) (slots : List (Option α)) :
    ({ s with running := s.running.erase i, slots := slots }
      : State α).pending = s.pending.erase i := by
  have hwaiting : i ∉ s.waiting := fun hmem =>
    (List.nodup_append.1 hnodup).2.2 i hmem i hi rfl
  exact (List.erase_append_right _ hwaiting).symm

/-- There is a slot for every task. -/
theorem Parted.length_slots (h : Parted work tasks s) :
    s.slots.length = tasks.length := by
  have hsome : ∀ i : Nat, (s.slots[i]?).isSome = (tasks[i]?).isSome := by
    intro i
    rw [h.slots, Option.isSome_map]
  have hleft := hsome tasks.length
  have hright := hsome s.slots.length
  simp at hleft hright
  omega

theorem Parted.step {e : Event} (h : Parted work tasks s)
    (hstep : step? workers work tasks s e = some s') :
    Parted work tasks s' := by
  obtain ⟨i, hi, -, rfl⟩ | ⟨i, hi, -, rfl⟩ := step?_cases hstep
  · have hpending := pending_start hi
    constructor
    · exact hpending.nodup_iff.2 h.nodup
    · intro j
      simp only [hpending.mem_iff]
      exact h.slots j
  · have hpending := pending_finish h.nodup hi
      (s.slots.set i (tasks[i]?.map work))
    constructor
    · rw [hpending]
      exact h.nodup.erase i
    · intro j
      simp only [hpending, h.nodup.mem_erase_iff, List.getElem?_set]
      by_cases hj : i = j
      · subst hj
        -- the task gets its result, and the slot is there if the task is
        by_cases hlt : i < tasks.length
        · simp [h.length_slots, hlt]
        · simp [h.length_slots, hlt]
      · have hne : j ≠ i := fun he => hj he.symm
        simp only [hj, hne, if_false, true_and, ne_eq, not_false_eq_true]
        exact h.slots j

theorem Parted.steps (h : Parted work tasks s)
    (hsteps : steps? workers work tasks s schedule = some s') :
    Parted work tasks s' := by
  induction schedule generalizing s with
  | nil =>
      injection hsteps with hsteps
      rwa [← hsteps]
  | cons e schedule ih =>
      simp only [steps?] at hsteps
      split at hsteps
      · cases hsteps
      · next t ht => exact ih (h.step ht) hsteps

-- ============================================================= the end

/-- No event can follow. -/
def Ended (workers : Nat) (work : β → α) (tasks : List β) (s : State α) :
    Prop :=
  ∀ e, step? workers work tasks s e = none

/-- A pool that has a worker ends only when all tasks are finished. -/
theorem ended_iff (hworkers : 0 < workers) :
    Ended workers work tasks s ↔ s.pending = [] := by
  constructor
  · intro hended
    have hrunning : s.running = [] := by
      apply List.eq_nil_iff_forall_not_mem.2
      intro i hi
      have hsome : (step? workers work tasks s (.finish i)).isSome = true :=
        step?_finish hi
      rw [hended] at hsome
      cases hsome
    have hwaiting : s.waiting = [] := by
      apply List.eq_nil_iff_forall_not_mem.2
      intro i hi
      have hfree : s.running.length < workers := by simpa [hrunning]
      have hsome : (step? workers work tasks s (.start i)).isSome = true :=
        step?_start hfree hi
      rw [hended] at hsome
      cases hsome
    rw [State.pending, hwaiting, hrunning, List.append_nil]
  · intro hpending e
    obtain ⟨hwaiting, hrunning⟩ := List.append_eq_nil_iff.1 hpending
    cases hstep : step? workers work tasks s e with
    | none => rfl
    | some t =>
        obtain ⟨i, hi, -⟩ | ⟨i, hi, -⟩ := step?_cases hstep
        · rw [hwaiting] at hi
          cases hi
        · rw [hrunning] at hi
          cases hi

/-- Any pool comes to an end from where it stands. -/
theorem exists_ended (workers : Nat) (work : β → α) (tasks : List β)
    (s : State α) :
    ∃ more t, steps? workers work tasks s more = some t
      ∧ Ended workers work tasks t := by
  induction hn : s.toDo generalizing s with
  | zero =>
      refine ⟨[], s, rfl, fun e => ?_⟩
      cases hstep : step? workers work tasks s e with
      | none => rfl
      | some t =>
          have := toDo_step hstep
          omega
  | succ n ih =>
      by_cases hended : Ended workers work tasks s
      · exact ⟨[], s, rfl, hended⟩
      · obtain ⟨e, he⟩ := not_forall.1 hended
        obtain ⟨t, ht⟩ := Option.ne_none_iff_exists'.1 he
        obtain ⟨more, u, hmore, hu⟩ := ih t (by have := toDo_step ht; omega)
        refine ⟨e :: more, u, ?_, hu⟩
        simp only [steps?, ht, hmore]

-- ============================================================= results

/-- Filled slots are read out. -/
theorem mapM_id_map_some (results : List α) :
    (results.map some).mapM id = some results := by
  rw [List.mapM_map]
  show results.mapM (fun a => pure (id a)) = some results
  rw [List.mapM_pure, List.map_id]
  rfl

/-- What is read out of the slots is what they are filled with. -/
theorem slots_of_mapM_id {slots : List (Option α)} {results : List α}
    (h : slots.mapM id = some results) : slots = results.map some := by
  induction slots generalizing results with
  | nil =>
      injection h with h
      rw [← h]
      rfl
  | cons slot slots ih =>
      rw [List.mapM_cons] at h
      cases slot with
      | none => cases h
      | some a =>
          cases hrest : slots.mapM id with
          | none =>
              rw [hrest] at h
              cases h
          | some rest =>
              rw [hrest] at h
              injection h with h
              rw [← h, List.map_cons, ← ih hrest]

/-- With nothing pending the slots hold the results of all tasks. -/
theorem Parted.slots_eq (h : Parted work tasks s) (hpending : s.pending = []) :
    s.slots = (tasks.map work).map some := by
  apply List.ext_getElem?
  intro i
  rw [h.slots, hpending, List.map_map, List.getElem?_map]
  simp only [List.not_mem_nil, if_false]
  rfl

/-- Results that a pool gives are those of the tasks, in their order. -/
theorem eq_of_run? {results : List α}
    (h : run? workers work tasks schedule = some results) :
    results = tasks.map work := by
  unfold run? at h
  split at h
  · cases h
  · next s hs =>
    have hslots := slots_of_mapM_id h
    have hparted := parted_idle.steps hs
    apply List.ext_getElem?
    intro i
    have hi := hparted.slots i
    rw [hslots, List.getElem?_map] at hi
    rw [List.getElem?_map]
    -- a pending task would have an empty slot
    cases hresult : results[i]? with
    | none =>
        rw [hresult] at hi
        cases htask : tasks[i]? with
        | none => rfl
        | some b =>
            rw [htask] at hi
            cases hi
    | some a =>
        rw [hresult] at hi
        cases htask : tasks[i]? with
        | none =>
            rw [htask] at hi
            cases hi
        | some b =>
            rw [htask] at hi
            simp only [Option.map_some, Option.some.injEq] at hi ⊢
            split at hi
            · cases hi
            · exact Option.some.inj hi

/-- The pool follows the schedule, and no event can follow it. -/
def Complete (workers : Nat) (work : β → α) (tasks : List β)
    (schedule : List Event) : Prop :=
  ∃ s, steps? workers work tasks (.idle tasks.length) schedule = some s
    ∧ Ended workers work tasks s

/-- A pool that has a worker gives the results of all tasks when it comes to
its end. -/
theorem Complete.run?_eq (hworkers : 0 < workers)
    (h : Complete workers work tasks schedule) :
    run? workers work tasks schedule = some (tasks.map work) := by
  obtain ⟨s, hs, hended⟩ := h
  have hslots := (parted_idle.steps hs).slots_eq
    ((ended_iff hworkers).1 hended)
  unfold run?
  simp only [hs]
  rw [hslots]
  exact mapM_id_map_some _

/-- What a pool follows it can follow to its end. -/
theorem exists_complete
    (hs : steps? workers work tasks (.idle tasks.length) schedule = some s) :
    ∃ more, Complete workers work tasks (schedule ++ more) := by
  obtain ⟨more, t, hmore, ht⟩ := exists_ended workers work tasks s
  refine ⟨more, t, ?_, ht⟩
  rw [steps?_append, hs]
  exact hmore

/-- A run has at most two events for each task. -/
theorem length_le_of_steps?
    (hs : steps? workers work tasks (.idle tasks.length) schedule = some s) :
    schedule.length ≤ 2 * tasks.length := by
  have htoDo := toDo_steps hs
  simp only [State.toDo, State.idle, List.length_range, List.length_nil]
    at htoDo
  omega

end Marginalia.Pool
