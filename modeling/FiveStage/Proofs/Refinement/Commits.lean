import FiveStage.Proofs.Refinement.Cycle

/-!
# The pipeline refines the sequential machine

Without interrupts, what the pipeline has retired after any number of cycles is what the sequential
machine has committed, but for one instruction that may be held in the last latch. Stalls of the
environment, latencies, hazards and wrong paths show in the number of cycles only.
-/

namespace FiveStage

/-- What a run starts from: a configuration, what CP1 computes, the registers, and the memories with
their contents. -/
structure Setup where
  config : Configuration
  operation : Operation := singlePrecision
  regs : RegisterFile := .zero
  imem : Memory
  dmem : Memory

namespace Setup

/-- The settings of the pipeline. -/
abbrev settings (s : Setup) : PipelineSettings :=
  s.config.pipeline

/-- The pipeline after reset, with the reference bank. -/
def pipeline (s : Setup) : Pipeline Memory Memory ReferenceUnit where
  core := { Core.reset s.config with regs := s.regs }
  imem := s.imem
  dmem := s.dmem
  bank := .reference s.config.coprocessors.latency s.operation

/-- The sequential machine before its first instruction. -/
def machine (s : Setup) : Machine where
  pc := s.config.pipeline.resetPc
  regs := s.regs
  code := s.imem.storage
  data := s.dmem.storage
  operation := s.operation

theorem simulates (s : Setup) : Simulates s.pipeline s.machine where
  code := rfl
  data := rfl
  regs := rfl
  lastTrap := rfl
  flight := ⟨{}, Bank.isReference_reference .., Machine.flies_of_empty rfl none⟩

end Setup

namespace Machine

/-- No instruction that the machine executes reads a counter. -/
def Blind (settings : PipelineSettings) (m : Machine) : Prop :=
  ∀ n, ¬ (m.run settings (List.replicate n .execute)).fetched.readsCounter

theorem Blind.run {settings : PipelineSettings} {m : Machine} (blind : m.Blind settings) (k : Nat) :
    (m.run settings (List.replicate k .execute)).Blind settings := by
  intro n
  rw [← run_append, List.replicate_append_replicate]
  exact blind (k + n)

/-- It is enough that no word of the code is such an instruction. -/
theorem blind_of_words {m : Machine} (settings : PipelineSettings)
    (absent : ∀ i : Fin m.code.words.size, ¬ Instruction.readsCounter m.code.words[i]) :
    m.Blind settings := by
  intro n
  unfold fetched
  rw [(m.run_fixed settings _).1]
  exact absent _

end Machine

section Quiet

variable {p : Pipeline Memory Memory ReferenceUnit} {m : Machine}

/-- What is issued is executed, so it reads no counter either. -/
theorem Simulates.blind (sim : Simulates p m) (blind : m.Blind p.core.settings) :
    ∀ e ∈ p.core.latches.idEx, ¬ e.inst.readsCounter := by
  intro e entry
  have issued {n : Machine} {visible : Option IfId} {pc : Word}
      (front : n.Fronts p.core.settings p.core.latches.idEx visible pc) :
      e.inst = n.fetched := by
    rw [Option.mem_def.mp entry] at front
    rw [front.1]
    rfl
  obtain ⟨csrs, -, flight⟩ := sim.flight
  unfold Machine.Flies at flight
  cases young : p.core.latches.exMem with
  | none =>
    rw [young] at flight
    rw [issued flight.2]
    exact blind 0
  | some x =>
    rw [young] at flight
    obtain ⟨csrs', completes, -, front⟩ := flight
    have next : m.run p.core.settings (List.replicate 1 .execute) = m.after x csrs' := by
      change (m.execute p.core.settings).next = _
      rw [completes.step]
      rfl
    rw [issued front, ← next]
    exact blind 1

/-- What is in the last latch counts as committed, though it has yet to retire. -/
def Pipeline.held (p : Pipeline Memory Memory ReferenceUnit) : List Commit :=
  p.core.latches.memWb.toList.map (·.commit)

/-- What a cycle adds to what has retired or is held. -/
theorem Pipeline.retired_append_held (p : Pipeline Memory Memory ReferenceUnit) (inputs : Inputs) :
    (p.tick inputs).report.retired.toList.map (·.commit) ++ (p.tick inputs).next.held =
      p.held ++ (p.moved inputs).toList.map (·.commit) := by
  unfold held
  rw [← List.map_append, p.retired_append_memWb, List.map_append]

/-- A cycle without an interrupt, as a run of the machine. -/
theorem Follows.exists_replicate {inputs : Inputs} {t : Tick Memory Memory ReferenceUnit}
    {commits : List Commit} (follows : Follows p m inputs t commits)
    (quiet : inputs.interrupt = false) :
    ∃ k, m.commits p.core.settings (List.replicate k .execute) = commits ∧
      Simulates t.next (m.run p.core.settings (List.replicate k .execute)) := by
  cases follows with
  | on _ _ executes sim =>
    obtain ⟨k, rfl, committed⟩ := executes.exists_run
    exact ⟨k, committed, sim⟩
  | trap _ executes _ step sim =>
    obtain ⟨k, rfl, committed⟩ := executes.exists_run
    rw [quiet, if_neg (by decide)] at step
    refine ⟨k + 1, ?_, ?_⟩
    · rw [List.replicate_succ', Machine.commits_append, committed, Machine.commits, step]
      exact List.append_nil _
    · rw [List.replicate_succ', Machine.run_append, Machine.run_cons, step]
      exact sim

/-- What is committed in a first cycle and then along the rest of a schedule. -/
theorem Pipeline.held_append {inputs : Inputs} {rest : Schedule} {moves more : List Move}
    {last : List Commit}
    (now : m.commits p.core.settings moves = (p.moved inputs).toList.map (·.commit))
    (later : (p.tick inputs).next.held ++
        (m.run p.core.settings moves).commits p.core.settings more =
      (p.tick inputs).next.commits rest ++ last) :
    p.held ++ m.commits p.core.settings (moves ++ more) = p.commits (inputs :: rest) ++ last := by
  rw [Machine.commits_append, ← List.append_assoc, now, ← p.retired_append_held, List.append_assoc,
    later, p.commits_cons, List.append_assoc]

/-- Along any schedule without interrupts the machine executes its way. -/
theorem Simulates.exists_run (sim : Simulates p m) (blind : m.Blind p.core.settings)
    {schedule : Schedule} (quiet : ∀ inputs ∈ schedule, inputs.interrupt = false) :
    ∃ n, p.held ++ m.commits p.core.settings (List.replicate n .execute) =
        p.commits schedule ++ (p.run schedule).held ∧
      Simulates (p.run schedule) (m.run p.core.settings (List.replicate n .execute)) := by
  induction schedule generalizing p m with
  | nil => exact ⟨0, List.append_nil _, sim⟩
  | cons inputs rest ih =>
    have calm := quiet inputs (List.mem_cons_self ..)
    have follows := p.tick_follows sim inputs (sim.blind blind) (by rw [calm]; exact nofun)
    obtain ⟨k, now, sim'⟩ := follows.exists_replicate calm
    obtain ⟨n, later, last⟩ :=
      ih sim' (blind.run k) fun inputs member => quiet inputs (List.mem_cons_of_mem _ member)
    refine ⟨k + n, ?_, ?_⟩
    · rw [← List.replicate_append_replicate]
      exact Pipeline.held_append now later
    · rw [← List.replicate_append_replicate, Machine.run_append]
      exact last

end Quiet

namespace Setup

/-- After every schedule of stalls the machine has executed some way: it has committed what has
retired and what is held, in that order, and its registers, data memory and last trap are those of
the pipeline once what is held is written. Where execute has nothing half done, its control and
status registers are those of the bank, counters apart. -/
theorem commits_prefix (s : Setup) (blind : s.machine.Blind s.settings) (schedule : Schedule)
    (quiet : ∀ inputs ∈ schedule, inputs.interrupt = false) :
    ∃ n, let m := s.machine.run s.settings (List.replicate n .execute)
      let p := s.pipeline.run schedule
      s.pipeline.commits schedule <+: s.machine.commits s.settings (List.replicate n .execute) ∧
      s.machine.commits s.settings (List.replicate n .execute) =
        s.pipeline.commits schedule ++ p.held ∧
      m.regs = p.core.committed ∧ m.data = p.dmem.storage ∧ m.lastTrap = p.core.lastTrap ∧
      (p.core.latches.exMem = none →
        ∃ csrs, p.bank.cp0 = .inl csrs ∧ csrs.uncounted = m.csrs.uncounted) := by
  obtain ⟨n, committed, sim⟩ := s.simulates.exists_run blind quiet
  refine ⟨n, ⟨_, committed.symm⟩, committed, sim.regs, sim.data, sim.lastTrap, fun empty => ?_⟩
  obtain ⟨csrs, units, flight⟩ := sim.flight
  unfold Machine.Flies at flight
  rw [empty] at flight
  exact ⟨csrs, units.cp0, flight.1⟩

/-- A memory of the one word `addi x1, x1, 1`, which every address reaches, and slow at that. -/
def counting : Setup where
  config := {}
  imem := (Memory.create 4 2).write 0 0x00108093 0xF
  dmem := (Memory.create 4 1).write 0 0x00108093 0xF

/-- The run retires two increments in nine cycles, one of which the environment stalls. -/
theorem commits_prefix_counting :
    let schedule : Schedule := [{}, {}, {}, {}, {}, { externalStall := true }, {}, {}, {}]
    (counting.pipeline.commits schedule).length = 2 ∧
      ∃ n, counting.pipeline.commits schedule <+:
        counting.machine.commits counting.settings (List.replicate n .execute) := by
  have blind := Machine.blind_of_words (m := counting.machine) counting.settings (by decide)
  obtain ⟨n, ahead, -⟩ := counting.commits_prefix blind
    [{}, {}, {}, {}, {}, { externalStall := true }, {}, {}, {}] (by decide)
  exact ⟨by decide +kernel, n, ahead⟩

end Setup

end FiveStage
