import FiveStage.Proofs.Refinement.Commits
import FiveStage.Simulator

/-!
# The state at a halt

A run that stops at a trap stops in the cycle in which execute takes it. The instruction before the
trapping one may only just have left the memory stage then, so it is not written back: data memory
is that of the sequential machine before the trap, and so are the registers, but for that
instruction.
-/

namespace FiveStage

namespace Simulator

/-- Where the run of a simulator starts, with what its CP1 computes. -/
def setup (s : Simulator) (operation : Operation := singlePrecision) : Setup where
  config := s.config
  operation
  imem := s.pipeline.imem
  dmem := s.pipeline.dmem

theorem build_pipeline {config : Configuration} {program : Program} {operation : Operation}
    {s : Simulator} (built : build config program operation = .ok s) :
    s.pipeline = (s.setup operation).pipeline := by
  obtain ⟨-, imem, dmem, -, -, rfl⟩ := build_eq_ok_iff.mp built
  rfl

/-- Only a configuration that asks for it stops a run at a trap. -/
theorem runFor_exit {config : Configuration} (never : config.general.haltOnTrap = false)
    (cycles : Nat) (p : Pipeline Memory Memory ReferenceUnit) (log : Log) :
    (runFor config cycles p log).exit = .cycleLimit := by
  induction cycles generalizing p log with
  | zero => rfl
  | succ cycles ih =>
    have ignored : ((p.tick {}).report.trap.filter fun _ => config.general.haltOnTrap) = none := by
      simp [never]
    unfold runFor
    simp only [ignored]
    exact ih _ _

theorem runFor_of_trap {config : Configuration} (halts : config.general.haltOnTrap = true)
    {p : Pipeline Memory Memory ReferenceUnit} {trap : Trap}
    (taken : (p.tick {}).report.trap = some trap) (cycles : Nat) (log : Log) :
    (runFor config (cycles + 1) p log).exit = .trap trap ∧
      (runFor config (cycles + 1) p log).simulator.pipeline = (p.tick {}).next := by
  have stop : ((p.tick {}).report.trap.filter fun _ => config.general.haltOnTrap) = some trap := by
    simp [taken, halts]
  unfold runFor
  refine ⟨?_, ?_⟩ <;> simp only [stop]

theorem runFor_of_straight (config : Configuration) {p : Pipeline Memory Memory ReferenceUnit}
    (straight : (p.tick {}).report.trap = none) (cycles : Nat) (log : Log) :
    ∃ log', runFor config (cycles + 1) p log = runFor config cycles (p.tick {}).next log' := by
  refine ⟨(log.append (p.tick {}).events).append (progressEvents (p.tick {})), ?_⟩
  conv => lhs; unfold runFor
  simp only [straight, Option.filter_none]

/-- A run that stops at a trap has followed the machine up to it. -/
theorem runFor_halted {config : Configuration} {cycles : Nat}
    {p : Pipeline Memory Memory ReferenceUnit} {m : Machine} {log : Log} {trap : Trap}
    (sim : Simulates p m) (blind : m.Blind p.core.settings)
    (halted : (runFor config cycles p log).exit = .trap trap) :
    let last := (runFor config cycles p log).simulator.pipeline
    ∃ n commits base next, last = p.run (.quiet n) ∧
      p.commits (.quiet n) ++ last.held = p.held ++ commits ∧
      m.Executes p.core.settings commits base ∧ trap.pc = base.pc ∧
      base.execute p.core.settings = .trapped trap next ∧ Simulates last next := by
  induction cycles generalizing p m log with
  | zero => cases halted
  | succ cycles ih =>
    have quiet (n : Nat) : Schedule.quiet (n + 1) = {} :: Schedule.quiet n := rfl
    cases p.tick_follows sim {} (sim.blind blind) nofun with
    | @trap trap' base next taken executes pc step sim' =>
      cases halts : config.general.haltOnTrap with
      | false =>
        rw [runFor_exit halts] at halted
        cases halted
      | true =>
        obtain ⟨exit, last⟩ := runFor_of_trap halts taken cycles log
        rw [exit] at halted
        cases halted
        rw [last]
        refine ⟨1, _, base, next, rfl, ?_, executes, pc, step, sim'⟩
        rw [← p.retired_append_held, quiet, p.commits_cons]
        exact congrArg (· ++ _) (List.append_nil _)
    | @on next calm straight executes sim' =>
      obtain ⟨log', go⟩ := runFor_of_straight config straight cycles log
      rw [go] at halted ⊢
      obtain ⟨k, reached, -⟩ := executes.exists_run
      obtain ⟨n, more, base, last, place, later, executes', halt⟩ :=
        ih sim' (reached ▸ blind.run k) halted
      refine ⟨n + 1, _, base, last, place, ?_, executes.trans executes', halt⟩
      rw [quiet, p.commits_cons, List.append_assoc, later, ← List.append_assoc,
        p.retired_append_held, List.append_assoc]

/-- When a run stops at a trap, the data memory is that of the sequential machine that has executed
every instruction before the trapping one, and no other. The registers are those of that machine but
for the instruction in the last latch, which has yet to be written back. -/
theorem state_at_halt {config : Configuration} {program : Program} {operation : Operation}
    {s : Simulator} {log : Log} {trap : Trap} (built : build config program operation = .ok s)
    (blind : (s.setup operation).machine.Blind s.config.pipeline)
    (halted : (s.run log).exit = .trap trap) :
    let p := (s.run log).simulator.pipeline
    ∃ n commits m next, p = s.pipeline.run (.quiet n) ∧
      (s.setup operation).machine.Executes s.config.pipeline commits m ∧
      commits = s.pipeline.commits (.quiet n) ++ p.held ∧
      m.pc = trap.pc ∧ m.execute s.config.pipeline = .trapped trap next ∧
      m.data = p.dmem.storage ∧ m.regs = p.core.regs.commit p.core.latches.memWb := by
  have start := build_pipeline built
  have sim : Simulates s.pipeline (s.setup operation).machine := by
    rw [start]
    exact (s.setup operation).simulates
  have settings : s.pipeline.core.settings = s.config.pipeline := by
    rw [start]
    rfl
  have empty : s.pipeline.held = [] := by
    rw [start]
    rfl
  rw [← settings] at blind ⊢
  obtain ⟨n, commits, m, next, place, committed, executes, pc, step, last⟩ :=
    runFor_halted sim blind halted
  refine ⟨n, commits, m, next, place, executes, ?_, pc.symm, step, ?_, ?_⟩
  · rw [empty] at committed
    exact committed.symm
  · have kept := Machine.eq_of_trapped step
    refine Eq.trans ?_ last.data
    rw [kept]
  · have kept := Machine.eq_of_trapped step
    refine Eq.trans ?_ last.regs
    rw [kept]

/-- The program `addi x10, x0, 5; ecall`. -/
def callAtOnce : Program :=
  .ofRaw [0x13, 0x05, 0x50, 0x00, 0x73, 0x00, 0x00, 0x00] 0

/-- A short run in a memory that the program fills. -/
def shortRun : Configuration where
  general := { maxCycles := 10 }
  memory := { sizeBytes := 8 }

/-- The call halts the run. -/
theorem state_at_halt_callAtOnce :
    ∃ (s : Simulator) (trap : Trap) (m next : Machine), build shortRun callAtOnce = .ok s ∧
      (s.run {}).exit = .trap trap ∧ m.pc = trap.pc ∧
      m.execute s.config.pipeline = .trapped trap next ∧
      m.data = (s.run {}).simulator.pipeline.dmem.storage ∧
      m.regs = (s.run {}).simulator.pipeline.core.committed := by
  obtain ⟨n, commits, m, next, -, -, -, pc, step, data, regs⟩ :=
    @state_at_halt shortRun callAtOnce singlePrecision _ {}
      { cause := .coprocessorException .cp0 .ecall, pc := 4 } rfl
      (Machine.blind_of_words _ (by decide +kernel)) (by decide +kernel)
  exact ⟨_, _, m, next, rfl, by decide +kernel, pc, step, data, regs⟩

/-- The register file that is left there is not that of the machine before the trap: the addition
has yet to be written back. -/
theorem registers_at_halt_differ :
    ∃ s trap commits m next, build shortRun callAtOnce = .ok s ∧
      s.config.general.haltOnTrap = true ∧ s.setup.machine.Blind s.config.pipeline ∧
      (s.run {}).exit = .trap trap ∧
      s.setup.machine.Executes s.config.pipeline commits m ∧
      m.execute s.config.pipeline = .trapped trap next ∧
      m.regs.read 10 = 5 ∧ (s.run {}).simulator.pipeline.core.regs.read 10 = 0 := by
  refine ⟨_, { cause := .coprocessorException .cp0 .ecall, pc := 4 }, _, _, _, rfl, rfl,
    Machine.blind_of_words _ (by decide +kernel), by decide +kernel, .commit rfl (.refl _), rfl,
    by decide +kernel, by decide +kernel⟩

end Simulator

end FiveStage
