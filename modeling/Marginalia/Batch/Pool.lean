/-
A pool of workers. There is a slot for every task; a worker takes up a task
that waits and, when it is done, writes the result into the slot of that
task. At most so many tasks are under way at once. In which order tasks are
taken up and finished is the schedule, and nothing here prefers one
schedule to another.
-/

namespace Marginalia.Pool

-- =============================================================== steps

/-- What happens in a pool: a worker takes up a task, or is done with
it. -/
inductive Event where
  | start (task : Nat)
  | finish (task : Nat)
  deriving DecidableEq, Repr

/-- The state of a pool: the tasks that wait, those under way, and the
slots. -/
structure State (α : Type) where
  waiting : List Nat
  running : List Nat
  slots : List (Option α)
  deriving DecidableEq, Repr

variable {α β : Type}

/-- The state in which all of `count` tasks wait. -/
def State.idle (count : Nat) : State α :=
  ⟨List.range count, [], List.replicate count none⟩

/-- One event, for `workers` workers whose work on the tasks is `work`. A
task that does not wait cannot be taken up, no task can while all workers
are busy, and only a task that is under way can be finished. -/
def step? (workers : Nat) (work : β → α) (tasks : List β) (s : State α) :
    Event → Option (State α)
  | .start i =>
    if s.running.length < workers && s.waiting.contains i then
      some { s with waiting := s.waiting.erase i, running := i :: s.running }
    else none
  | .finish i =>
    if s.running.contains i then
      some { s with
        running := s.running.erase i
        slots := s.slots.set i (tasks[i]?.map work) }
    else none

/-- The events of a schedule, in order. -/
def steps? (workers : Nat) (work : β → α) (tasks : List β) (s : State α) :
    List Event → Option (State α)
  | [] => some s
  | e :: rest =>
    match step? workers work tasks s e with
    | none => none
    | some s => steps? workers work tasks s rest

/-- The results in the order of the tasks; nothing when the schedule is
none for this pool, or leaves a task undone. -/
def run? (workers : Nat) (work : β → α) (tasks : List β)
    (schedule : List Event) : Option (List α) :=
  match steps? workers work tasks (.idle tasks.length) schedule with
  | none => none
  | some s => s.slots.mapM id

end Marginalia.Pool
