import FiveStage.Pipeline.Tick
import FiveStage.Sequential

/-!
# Schedules

A schedule gives the inputs of each cycle of a run. This module runs a pipeline along a schedule
and says what can be seen of the run: the reports of its cycles and the instructions that it
commits, in the form in which the sequential machine commits them.
-/

namespace FiveStage

/-- The inputs of each cycle of a run, the first cycle first. -/
abbrev Schedule := List Inputs

/-- The schedule of `n` cycles with quiet inputs. -/
def Schedule.quiet (n : Nat) : Schedule :=
  List.replicate n {}

/-- What a retired instruction leaves for the outside. -/
def MemWb.commit (e : MemWb) : Commit where
  pc := e.pc
  inst := e.inst
  rd := e.rd
  value := if e.writes then some e.value else none

namespace Pipeline

variable {ι δ σ : Type} [MemoryPort ι] [MemoryPort δ] [Coprocessor σ]

/-- The pipeline after a schedule. -/
def run (p : Pipeline ι δ σ) (schedule : Schedule) : Pipeline ι δ σ :=
  schedule.foldl (fun p inputs => (p.tick inputs).next) p

/-- The reports of the cycles of a schedule. -/
def reports (p : Pipeline ι δ σ) : Schedule → List Report
  | [] => []
  | inputs :: rest =>
      let t := p.tick inputs
      t.report :: t.next.reports rest

/-- What retires along a schedule, in order. -/
def retired (p : Pipeline ι δ σ) (schedule : Schedule) : List MemWb :=
  (p.reports schedule).filterMap (·.retired)

/-- What the pipeline commits along a schedule, in order. -/
def commits (p : Pipeline ι δ σ) (schedule : Schedule) : List Commit :=
  (p.reports schedule).filterMap fun r => r.retired.map (·.commit)

@[simp]
theorem run_nil (p : Pipeline ι δ σ) : p.run [] = p := rfl

@[simp]
theorem run_cons (p : Pipeline ι δ σ) (inputs : Inputs) (schedule : Schedule) :
    p.run (inputs :: schedule) = (p.tick inputs).next.run schedule := rfl

theorem run_append (p : Pipeline ι δ σ) (schedule more : Schedule) :
    p.run (schedule ++ more) = (p.run schedule).run more := by
  simp [run]

/-- The settings stay as they are. -/
theorem settings_run (p : Pipeline ι δ σ) (schedule : Schedule) :
    (p.run schedule).core.settings = p.core.settings := by
  induction schedule generalizing p with
  | nil => rfl
  | cons inputs rest ih => exact ih (p.tick inputs).next

theorem reports_cons (p : Pipeline ι δ σ) (inputs : Inputs) (schedule : Schedule) :
    p.reports (inputs :: schedule) =
      (p.tick inputs).report :: (p.tick inputs).next.reports schedule := rfl

theorem reports_append (p : Pipeline ι δ σ) (schedule more : Schedule) :
    p.reports (schedule ++ more) = p.reports schedule ++ (p.run schedule).reports more := by
  induction schedule generalizing p with
  | nil => rfl
  | cons inputs schedule ih => simp [reports, ih]

/-- There is one report for each cycle. -/
@[simp]
theorem length_reports (p : Pipeline ι δ σ) (schedule : Schedule) :
    (p.reports schedule).length = schedule.length := by
  induction schedule generalizing p with
  | nil => rfl
  | cons inputs schedule ih => simp [reports, ih]

theorem retired_cons (p : Pipeline ι δ σ) (inputs : Inputs) (schedule : Schedule) :
    p.retired (inputs :: schedule) =
      (p.tick inputs).report.retired.toList ++ (p.tick inputs).next.retired schedule := by
  unfold retired
  rw [reports_cons]
  cases first : (p.tick inputs).report.retired <;> simp [first]

theorem retired_append (p : Pipeline ι δ σ) (schedule more : Schedule) :
    p.retired (schedule ++ more) = p.retired schedule ++ (p.run schedule).retired more := by
  unfold retired
  rw [reports_append, List.filterMap_append]

theorem map_commit_retired (p : Pipeline ι δ σ) (schedule : Schedule) :
    (p.retired schedule).map (·.commit) = p.commits schedule := by
  unfold retired commits
  rw [List.map_filterMap]

theorem commits_cons (p : Pipeline ι δ σ) (inputs : Inputs) (schedule : Schedule) :
    p.commits (inputs :: schedule) =
      (p.tick inputs).report.retired.toList.map (·.commit) ++
        (p.tick inputs).next.commits schedule := by
  rw [← map_commit_retired, retired_cons, List.map_append, map_commit_retired]

end Pipeline

end FiveStage
