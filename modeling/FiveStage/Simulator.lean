import FiveStage.Coprocessor.Reference
import FiveStage.Memory.Timed
import FiveStage.Pipeline.Tick
import FiveStage.Program.Basic

/-!
# The simulator

The pipeline with the reference memories and the reference bank, built from a configuration and a
program, and the loop that runs it until a trap or the cycle limit.
-/

namespace FiveStage

/-- The pipeline with its reference collaborators, and the configuration it was built from. -/
structure Simulator where
  pipeline : Pipeline Memory Memory ReferenceUnit
  config : Configuration

/-- Why there is no simulator. -/
inductive SimulationError where
  | configuration (error : ConfigurationError)
  | load (error : LoadError)
  deriving DecidableEq, Repr

def SimulationError.message : SimulationError → String
  | configuration error => error.message
  | load error => error.message

/-- Why a run stopped. -/
inductive Exit where
  | trap (trap : Trap)
  | cycleLimit
  deriving DecidableEq, Repr

/-- A run that has stopped. -/
structure Run where
  exit : Exit
  simulator : Simulator
  log : Log

namespace Simulator

/-- The cycles between two progress events. -/
def progressInterval : Nat := 1000000

/-- The configuration that a program runs under: its entry point, if it has one, is where the
pipeline starts. -/
def effective (config : Configuration) (program : Program) : Configuration :=
  match program.entry with
  | some entry => { config with pipeline := { config.pipeline with resetPc := entry } }
  | none => config

/-- The memory of a simulator with the program placed in it. -/
def image (config : Configuration) (program : Program) (latency : Nat) :
    Except SimulationError Memory :=
  let placed : Except LoadError Memory :=
    program.loadInto (.create config.memory.sizeBytes latency)
  placed.mapError .load

/-- Checks the configuration and places the program in both memories. What CP1 computes may be
another operation than the arithmetic of the reference bank. -/
def build (config : Configuration) (program : Program)
    (operation : Operation := singlePrecision) : Except SimulationError Simulator := do
  config.validate.mapError .configuration
  let imem ← image config program config.memory.fetchLatency
  let dmem ← image config program config.memory.dataLatency
  let config := effective config program
  let bank := Bank.reference config.coprocessors.latency operation
  return { pipeline := .create config imem dmem bank, config }

theorem image_eq_ok_iff {config : Configuration} {program : Program} {latency : Nat} {m : Memory} :
    image config program latency = .ok m ↔
      program.loadInto (.create config.memory.sizeBytes latency) = .ok m := by
  unfold image
  cases program.loadInto (.create config.memory.sizeBytes latency) with
  | error failure => exact ⟨nofun, nofun⟩
  | ok placed => exact ⟨fun h => by cases h; rfl, fun h => by cases h; rfl⟩

/-- A simulator is built from a configuration that passes its checks and a program that fits. -/
theorem build_eq_ok_iff {config : Configuration} {program : Program} {operation : Operation}
    {s : Simulator} :
    build config program operation = .ok s ↔
      config.validate = .ok () ∧ ∃ imem dmem,
        program.loadInto (.create config.memory.sizeBytes config.memory.fetchLatency) = .ok imem ∧
          program.loadInto (.create config.memory.sizeBytes config.memory.dataLatency) =
            .ok dmem ∧
          s =
            { pipeline :=
                .create (effective config program) imem dmem
                  (.reference (effective config program).coprocessors.latency operation)
              config := effective config program } := by
  simp only [← image_eq_ok_iff]
  unfold build
  cases config.validate with
  | error e => exact ⟨nofun, fun ⟨valid, _⟩ => nomatch valid⟩
  | ok =>
    cases image config program config.memory.fetchLatency with
    | error e => exact ⟨nofun, fun ⟨_, _, _, placed, _⟩ => nomatch placed⟩
    | ok imem =>
      cases image config program config.memory.dataLatency with
      | error e => exact ⟨nofun, fun ⟨_, _, _, _, placed, _⟩ => nomatch placed⟩
      | ok dmem =>
        constructor
        · intro built
          cases built
          exact ⟨rfl, imem, dmem, rfl, rfl, rfl⟩
        · rintro ⟨-, _, _, placed, placed', rfl⟩
          cases placed
          cases placed'
          rfl

/-- One clock cycle. -/
def tick (s : Simulator) (inputs : Inputs) : Tick Memory Memory ReferenceUnit :=
  s.pipeline.tick inputs

/-- What a cycle of a run logs besides the events of the pipeline. -/
def progressEvents (t : Tick Memory Memory ReferenceUnit) : List Event :=
  let cycles := t.report.cycle + 1
  if cycles % progressInterval = 0 then
    [.progress cycles t.next.core.stats.retired t.report.pcAfter]
  else []

/-- Runs for at most `cycles` cycles with quiet inputs. -/
def runFor (config : Configuration) (cycles : Nat)
    (pipeline : Pipeline Memory Memory ReferenceUnit) (log : Log) : Run :=
  match cycles with
  | 0 =>
      { exit := .cycleLimit
        simulator := { pipeline, config }
        log := log.append [.limitReached pipeline.core.cycle] }
  | cycles + 1 =>
      let t := pipeline.tick {}
      let log := log.append t.events
      match t.report.trap.filter fun _ => config.general.haltOnTrap with
      | some trap =>
          { exit := .trap trap
            simulator := { pipeline := t.next, config }
            log := log.append [.halted trap t.report.cycle] }
      | none => runFor config cycles t.next (log.append (progressEvents t))

/-- Runs with quiet inputs up to the cycle limit or, where the configuration says so, the first
trap. -/
def run (s : Simulator) (log : Log) : Run :=
  runFor s.config (s.config.general.maxCycles - s.pipeline.core.cycle) s.pipeline log

end Simulator

end FiveStage
