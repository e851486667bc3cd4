/-
Scanning as so many jobs gives the report of scanning one after another.
How an input is scanned is left open: its scan yields a result, reports an
error, or runs out of stack. Whatever the number of jobs and whatever the
schedule, each input has one entry in the report, the one that it has when
it is scanned alone, and the entries come in the order of the inputs.
-/
import Marginalia.Batch
import Marginalia.Proofs.Batch.Pool

namespace Marginalia

-- ============================================================= reports

/-- The report of several outcomes is put together from those of each. -/
theorem Report.ofOutcomes_cons (outcome : Except FileError FileScan)
    (rest : List (Except FileError FileScan)) :
    ofOutcomes (outcome :: rest)
      = ⟨(ofOutcomes [outcome]).scans ++ (ofOutcomes rest).scans,
        (ofOutcomes [outcome]).errors ++ (ofOutcomes rest).errors⟩ := by
  cases outcome <;> rfl

namespace Batch

variable (scan : Source → Except Failure FileScan)

/-- The entries of several inputs are those that they have alone, in the
order of the inputs. -/
theorem serial_eq (sources : List Source) :
    serial scan sources
      = ⟨sources.flatMap fun s => (serial scan [s]).scans,
        sources.flatMap fun s => (serial scan [s]).errors⟩ := by
  induction sources with
  | nil => rfl
  | cons s sources ih =>
      unfold serial at ih ⊢
      rw [List.map_cons, Report.ofOutcomes_cons, ih]
      rfl

/-- An input that is scanned alone has one entry: its result, the error that
its scan reports, or the error of its own when the stack runs out. -/
theorem serial_single (s : Source) :
    (∃ result, scan s = .ok result ∧ serial scan [s] = ⟨[result], []⟩)
      ∨ ∃ e, (scan s = .error (.reported e)
          ∨ scan s = .error .outOfStack ∧ e = ⟨s.file, .outOfStack⟩)
        ∧ serial scan [s] = ⟨[], [e]⟩ := by
  unfold serial
  simp only [List.map_cons, List.map_nil, outcome]
  cases hscan : scan s with
  | ok result => exact .inl ⟨result, rfl, rfl⟩
  | error failure =>
      cases failure with
      | reported e => exact .inr ⟨e, .inl rfl, rfl⟩
      | outOfStack => exact .inr ⟨_, .inr ⟨rfl, rfl⟩, rfl⟩

-- =========================================================== schedules

variable {scan} {jobs : Int} {schedule : List Pool.Event}
variable {sources : List Source}

/-- A report that comes out of a run is that of the serial run. -/
theorem eq_serial_of_run? {report : Report}
    (h : run? scan jobs schedule sources = some report) :
    report = serial scan sources := by
  unfold run? at h
  split at h
  · injection h with h
    exact h.symm
  · obtain ⟨outcomes, houtcomes, hreport⟩ := Option.map_eq_some_iff.1 h
    rw [Pool.eq_of_run? houtcomes] at hreport
    exact hreport.symm

/-- A run that goes on to the end of its schedule gives a report. With one
job there is no pool, so a pool has a worker. -/
theorem run?_of_complete
    (h : Pool.Complete jobs.toNat (outcome scan) sources schedule) :
    run? scan jobs schedule sources = some (serial scan sources) := by
  unfold run?
  split
  · rfl
  · next hjobs =>
    have hworkers : 0 < jobs.toNat := by omega
    unfold pooled?
    rw [h.run?_eq hworkers]
    rfl

/-- Neither the number of jobs nor the schedule makes a difference. Every
schedule on which the work comes to its end gives the report of the serial
run, and no schedule gives another; the work cannot go on for ever, and it
cannot get stuck before its end. The report has the results and the errors in
the order of the inputs, and of each input just the one entry that it has when
it is scanned alone. -/
theorem schedule_indifferent (scan : Source → Except Failure FileScan)
    (jobs : Int) (sources : List Source) :
    (∀ schedule, Pool.Complete jobs.toNat (outcome scan) sources schedule →
        run? scan jobs schedule sources = some (serial scan sources))
      ∧ (∀ schedule report, run? scan jobs schedule sources = some report →
        report = serial scan sources)
      ∧ (∀ schedule s, Pool.steps? jobs.toNat (outcome scan) sources
          (.idle sources.length) schedule = some s →
        schedule.length ≤ 2 * sources.length
          ∧ ∃ more, Pool.Complete jobs.toNat (outcome scan) sources
            (schedule ++ more))
      ∧ serial scan sources
        = ⟨sources.flatMap fun s => (serial scan [s]).scans,
          sources.flatMap fun s => (serial scan [s]).errors⟩
      ∧ ∀ s, (∃ result, scan s = .ok result
            ∧ serial scan [s] = ⟨[result], []⟩)
          ∨ ∃ e, (scan s = .error (.reported e)
              ∨ scan s = .error .outOfStack ∧ e = ⟨s.file, .outOfStack⟩)
            ∧ serial scan [s] = ⟨[], [e]⟩ := by
  refine ⟨fun schedule h => run?_of_complete h,
    fun schedule report h => eq_serial_of_run? h,
    fun schedule s hs => ?_, serial_eq scan sources, serial_single scan⟩
  exact ⟨Pool.length_le_of_steps? hs, Pool.exists_complete hs⟩

/-- Two workers take the last of three inputs first. One is scanned, one is
no text, and one is too much for the stack. -/
theorem schedule_indifferent_mixed :
    let sources : List Source :=
      [⟨"a", none, .text []⟩, ⟨"b", none, .bytes [0]⟩, ⟨"c", none, .text []⟩]
    let scan (s : Source) : Except Failure FileScan :=
      if s.file = "c" then .error .outOfStack
      else ScanOptions.scanSource {} ⟨.folder [], []⟩ s
    let schedule : List Pool.Event :=
      [.start 2, .start 0, .finish 2, .start 1, .finish 1, .finish 0]
    run? scan 2 schedule sources = some (serial scan sources)
      ∧ (serial scan sources).scans.map (·.file) = ["a"]
      ∧ (serial scan sources).errors
        = [⟨"b", .binary⟩, ⟨"c", .outOfStack⟩] := by
  intro sources scan schedule
  obtain ⟨hcomplete, -⟩ := schedule_indifferent scan 2 sources
  have hend : Pool.Complete 2 (outcome scan) sources schedule :=
    ⟨_, rfl, (Pool.ended_iff (by decide)).2 rfl⟩
  exact ⟨hcomplete schedule hend, by decide +kernel, by decide +kernel⟩

end Batch

end Marginalia
