import FiveStage.Proofs.Refinement.Commits

/-!
# Interrupts are precise

As long as no instruction of the system unit reaches execute, a pipeline that is interrupted does
what the sequential machine does when it is interrupted between two of its instructions. What an
interrupt finds before the last latch has left no trace but in the system unit, and the reported
address is that of the first instruction that was discarded.
-/

namespace FiveStage

section Boundaries

variable {p : Pipeline Memory Memory ReferenceUnit} {m : Machine}

/-- Along the schedule no instruction of the system unit reaches execute. -/
def Pipeline.SystemFree (p : Pipeline Memory Memory ReferenceUnit) (schedule : Schedule) : Prop :=
  ∀ before inputs after, schedule = before ++ inputs :: after →
    ∀ e ∈ (p.run before).core.latches.idEx, e.inst.slot? ≠ some .cp0

theorem Pipeline.systemFree_cons {inputs : Inputs} {rest : Schedule} :
    p.SystemFree (inputs :: rest) ↔
      (∀ e ∈ p.core.latches.idEx, e.inst.slot? ≠ some .cp0) ∧
        (p.tick inputs).next.SystemFree rest := by
  refine ⟨fun free => ⟨free [] inputs rest rfl, fun before next after split => ?_⟩, fun free => ?_⟩
  · exact free (inputs :: before) next after (congrArg (_ :: ·) split)
  · rintro (_ | ⟨_, before⟩) next after split <;> cases split
    · exact free.1
    · exact free.2 before next after rfl

instance Pipeline.decidableSystemFree :
    (schedule : Schedule) → (p : Pipeline Memory Memory ReferenceUnit) →
      Decidable (p.SystemFree schedule)
  | [], _ => isTrue fun before _ _ split => by cases before <;> cases split
  | inputs :: rest, p =>
      have := decidableSystemFree rest (p.tick inputs).next
      decidable_of_iff _ systemFree_cons.symm

/-- The machine that goes on at an address with the registers and memories that the pipeline shows,
and with the control and status registers of `m`. -/
def Pipeline.resumed (p : Pipeline Memory Memory ReferenceUnit) (m : Machine) (pc : Word) :
    Machine :=
  { m with pc, regs := p.core.committed, code := p.imem.storage, data := p.dmem.storage }

/-- After `done` the machine is at the boundary at which the pipeline is interrupted in the cycle
that follows `before`. -/
structure Boundary (p : Pipeline Memory Memory ReferenceUnit) (m : Machine) (before : Schedule)
    (inputs : Inputs) (done : List Move) : Prop where
  trap : ((p.run before).tick inputs).report.trap =
    some { cause := .externalInterrupt, pc := (m.run p.core.settings done).pc }
  commits : p.held ++ m.commits p.core.settings done =
    p.commits (before ++ [inputs]) ++ ((p.run before).tick inputs).next.held
  regs : (m.run p.core.settings done).regs = ((p.run before).tick inputs).next.core.committed
  code : (m.run p.core.settings done).code = ((p.run before).tick inputs).next.imem.storage
  data : (m.run p.core.settings done).data = ((p.run before).tick inputs).next.dmem.storage

theorem Machine.commits_interrupt (m : Machine) (settings : PipelineSettings)
    (moves : List Move) :
    m.commits settings (moves ++ [.interrupt]) = m.commits settings moves := by
  rw [commits_append]
  exact List.append_nil _

/-- At the boundary the pipeline shows the whole machine. -/
theorem Boundary.resumed_eq {before : Schedule} {inputs : Inputs} {done : List Move}
    (boundary : Boundary p m before inputs done) :
    ((p.run before).tick inputs).next.resumed (m.run p.core.settings done)
      (m.run p.core.settings done).pc = m.run p.core.settings done := by
  unfold Pipeline.resumed
  rw [← boundary.regs, ← boundary.code, ← boundary.data]

/-- A cycle with an interrupt, as a run of the machine up to the boundary. -/
theorem Follows.exists_boundary {inputs : Inputs}
    (follows : Follows p m inputs (p.tick inputs) ((p.moved inputs).toList.map (·.commit)))
    (interrupt : inputs.interrupt = true) :
    ∃ k, Boundary p m [] inputs (List.replicate k .execute) ∧
      m.commits p.core.settings (List.replicate k .execute) =
        (p.moved inputs).toList.map (·.commit) ∧
      Simulates (p.tick inputs).next
        (m.run p.core.settings (List.replicate k .execute ++ [.interrupt])) := by
  cases follows with
  | on quiet => cases interrupt.symm.trans quiet
  | trap taken executes pc step sim =>
    obtain ⟨k, rfl, now⟩ := executes.exists_run
    rw [interrupt, if_pos rfl] at step
    cases step
    refine ⟨k, ⟨taken, ?_, sim.regs, sim.code, sim.data⟩, now, ?_⟩
    · rw [now, ← p.retired_append_held, List.nil_append, p.commits_cons]
      exact (congrArg (· ++ _) (List.append_nil _)).symm
    · rw [Machine.run_append]
      exact sim

/-- A boundary after a first cycle. -/
theorem Boundary.cons {first inputs : Inputs} {before : Schedule} {moves done : List Move}
    (now : m.commits p.core.settings moves = (p.moved first).toList.map (·.commit))
    (later : Boundary (p.tick first).next (m.run p.core.settings moves) before inputs done) :
    Boundary p m (first :: before) inputs (moves ++ done) where
  trap := by
    rw [Machine.run_append]
    exact later.trap
  commits := Pipeline.held_append now later.commits
  regs := by
    rw [Machine.run_append]
    exact later.regs
  code := by
    rw [Machine.run_append]
    exact later.code
  data := by
    rw [Machine.run_append]
    exact later.data

/-- One cycle as moves of the machine: it is interrupted if the pipeline is, and then last. -/
theorem Follows.exists_moves {inputs : Inputs}
    (follows : Follows p m inputs (p.tick inputs) ((p.moved inputs).toList.map (·.commit))) :
    ∃ moves, m.commits p.core.settings moves = (p.moved inputs).toList.map (·.commit) ∧
      Simulates (p.tick inputs).next (m.run p.core.settings moves) ∧
      moves.count .interrupt = (if inputs.interrupt then 1 else 0) ∧
      (inputs.interrupt = true → ∃ done, moves = done ++ [.interrupt] ∧
        done.count .interrupt = 0 ∧ Boundary p m [] inputs done) := by
  have none (k : Nat) : (List.replicate k Move.execute).count .interrupt = 0 := by
    simp [List.count_replicate]
  cases interrupt : inputs.interrupt with
  | false =>
    obtain ⟨k, now, sim⟩ := follows.exists_replicate interrupt
    exact ⟨_, now, sim, none k, nofun⟩
  | true =>
    obtain ⟨k, boundary, now, sim⟩ := follows.exists_boundary interrupt
    refine ⟨_, ?_, sim, ?_, fun _ => ⟨_, rfl, none k, boundary⟩⟩
    · rw [Machine.commits_interrupt]
      exact now
    · rw [List.count_append, none k]
      rfl

/-- Along any schedule the machine makes moves that are interrupted at the boundaries at which the
pipeline is. -/
theorem Simulates.exists_moves (sim : Simulates p m) {schedule : Schedule}
    (free : p.SystemFree schedule)
    (young : ∀ x ∈ p.core.latches.exMem, x.inst.slot? ≠ some .cp0) :
    ∃ moves, p.held ++ m.commits p.core.settings moves =
        p.commits schedule ++ (p.run schedule).held ∧
      moves.count .interrupt = schedule.countP (·.interrupt) ∧
      ∀ before inputs after, schedule = before ++ inputs :: after → inputs.interrupt = true →
        ∃ done rest, moves = done ++ .interrupt :: rest ∧
          done.count .interrupt = before.countP (·.interrupt) ∧
          Boundary p m before inputs done := by
  induction schedule generalizing p m with
  | nil =>
    refine ⟨[], List.append_nil _, rfl, fun before inputs after split => ?_⟩
    cases before <;> cases split
  | cons first schedule ih =>
    rw [Pipeline.systemFree_cons] at free
    have follows := p.tick_follows sim first
      (fun e entry reads => free.1 e entry reads.1) fun _ => young
    obtain ⟨moves, now, sim', count, interrupted⟩ := follows.exists_moves
    have young' (x : ExMem) (entry : x ∈ (p.tick first).next.core.latches.exMem) :
        x.inst.slot? ≠ some .cp0 := by
      rcases p.tick_exMem first entry with old | ⟨e, issued, becomes⟩
      · exact young x old
      · rw [becomes.inst]
        exact free.1 e issued
    obtain ⟨more, later, counts, boundaries⟩ := ih sim' free.2 young'
    refine ⟨moves ++ more, Pipeline.held_append now later, ?_, ?_⟩
    · rw [List.count_append, count, List.countP_cons, counts, Nat.add_comm]
    · intro before inputs after split interrupt
      cases before with
      | nil =>
        cases split
        obtain ⟨done, rfl, none, boundary⟩ := interrupted interrupt
        exact ⟨done, more, List.append_assoc .., none, boundary⟩
      | cons _ before =>
        cases split
        obtain ⟨done, rest, rfl, counted, boundary⟩ := boundaries before inputs after rfl interrupt
        refine ⟨moves ++ done, rest, (List.append_assoc ..).symm, ?_, boundary.cons now⟩
        rw [List.count_append, count, List.countP_cons, counted, Nat.add_comm]

end Boundaries

/-- Interrupts are precise. There are boundaries between the instructions of the machine, one for
each interrupt and in the same order, such that what the pipeline retires is what the machine
commits when it is interrupted there. At the boundary of an interrupt the machine has committed what
has retired and what is held, the pipeline shows its registers and memories, the reported address is
where it stands, and to go on from there is to go on without the interrupt. -/
theorem Setup.interrupts_precise (s : Setup) (schedule : Schedule)
    (free : s.pipeline.SystemFree schedule) :
    ∃ moves : List Move,
      moves.count .interrupt = schedule.countP (·.interrupt) ∧
      s.pipeline.commits schedule <+: s.machine.commits s.settings moves ∧
      ∀ before inputs after, schedule = before ++ inputs :: after → inputs.interrupt = true →
        ∃ done rest, moves = done ++ .interrupt :: rest ∧
          done.count .interrupt = before.countP (·.interrupt) ∧
          let t := (s.pipeline.run before).tick inputs
          let base := s.machine.run s.settings done
          t.report.trap = some { cause := .externalInterrupt, pc := base.pc } ∧
          base.regs = t.next.core.committed ∧ base.data = t.next.dmem.storage ∧
          s.machine.commits s.settings done =
            s.pipeline.commits (before ++ [inputs]) ++ t.next.held ∧
          ∀ more, s.machine.commits s.settings (done ++ more) =
            s.pipeline.commits (before ++ [inputs]) ++ t.next.held ++
              (t.next.resumed base base.pc).commits s.settings more := by
  have empty : ∀ x ∈ s.pipeline.core.latches.exMem, x.inst.slot? ≠ some .cp0 := by
    intro x entry
    cases entry
  obtain ⟨moves, committed, count, boundaries⟩ := s.simulates.exists_moves free empty
  refine ⟨moves, count, ⟨_, committed.symm⟩, ?_⟩
  intro before inputs after split interrupt
  obtain ⟨done, rest, place, counted, boundary⟩ := boundaries before inputs after split interrupt
  refine ⟨done, rest, place, counted, boundary.trap, boundary.regs, boundary.data,
    boundary.commits, fun more => ?_⟩
  rw [Machine.commits_append, ← boundary.commits]
  exact congrArg (fun n : Machine => _ ++ n.commits s.settings more) boundary.resumed_eq.symm

/-- Of two interrupts the first finds the last latch held. -/
theorem Setup.interrupts_precise_counting :
    let schedule : Schedule :=
      [{}, {}, {}, {}, {}, { externalStall := true, interrupt := true }, {}, {},
        { interrupt := true }, {}]
    counting.pipeline.SystemFree schedule ∧
      ∃ moves : List Move, moves.count .interrupt = 2 ∧
        counting.pipeline.commits schedule <+:
          counting.machine.commits counting.settings moves := by
  intro schedule
  have free : counting.pipeline.SystemFree schedule := by decide +kernel
  obtain ⟨moves, count, ahead, -⟩ := counting.interrupts_precise schedule free
  exact ⟨free, moves, count, ahead⟩

end FiveStage
