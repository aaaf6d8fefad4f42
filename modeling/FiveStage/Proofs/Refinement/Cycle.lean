import FiveStage.Proofs.Refinement.Simulates

/-!
# One cycle against the sequential machine

Whatever way a cycle goes, the machine executes what the cycle moves into the last latch, then takes
the trap that the cycle takes, and the pipeline simulates it again.
-/

namespace FiveStage

/-! ## What follows from the clock edge -/

/-- The pipeline simulates a machine again if the clock edge leaves it where the machine is. -/
theorem Cycle.LeavesAt.simulates {c : Cycle Memory Memory ReferenceUnit} {p : Core} {m : Machine}
    {csrs : SystemUnit} {latches : Latches} {pc : Word} {trap : Option Trap}
    (leaves : c.LeavesAt p latches pc trap) (code : m.code = c.imem.storage)
    (data : m.data = c.dmem.storage) (regs : m.regs = c.regs.commit latches.memWb)
    (lastTrap : m.lastTrap = trap.or p.lastTrap)
    (units : c.dispatch.bank.IsReference m.operation csrs)
    (flight : m.Flies p.settings (csrs.notified trap).uncounted latches pc) :
    Simulates (c.edge p).next m := by
  obtain ⟨rfl, rfl, rfl⟩ := leaves
  obtain ⟨csrs', units', visible⟩ := Cycle.nextBank_isReference units
  exact ⟨code, data, regs, lastTrap, csrs', units', visible ▸ flight⟩

/-- What the machine does in the cycle `t` of the pipeline `p`, in which it commits `commits`. -/
inductive Follows (p : Pipeline Memory Memory ReferenceUnit) (m : Machine) (inputs : Inputs)
    (t : Tick Memory Memory ReferenceUnit) (commits : List Commit) : Prop where
  /-- It executes, and there is no trap. -/
  | on {next : Machine} (quiet : inputs.interrupt = false) (straight : t.report.trap = none)
      (executes : m.Executes p.core.settings commits next) (sim : Simulates t.next next)
  /-- It executes and then takes a trap. -/
  | trap {trap : Trap} {base next : Machine} (taken : t.report.trap = some trap)
      (executes : m.Executes p.core.settings commits base) (pc : trap.pc = base.pc)
      (step : base.step p.core.settings (if inputs.interrupt then .interrupt else .execute) =
        .trapped trap next)
      (sim : Simulates t.next next)

namespace Machine

/-- Where the machine is when an interrupt is taken: it has skipped what decode has dropped. -/
theorem Flies.executes_nil {settings : PipelineSettings} {m : Machine} {visible : SystemUnit}
    {p : Core} (flight : m.Flies settings visible p.latches p.pc)
    (precise : ∀ x ∈ p.latches.exMem, x.inst.slot? ≠ some .cp0) :
    ∃ base, m.Executes settings [] base ∧ p.resumePc = base.pc ∧
      visible = base.csrs.uncounted := by
  unfold Flies at flight
  unfold Core.resumePc Latches.oldestPc?
  cases entry : p.latches.exMem with
  | none =>
    rw [entry] at flight
    obtain ⟨agree, front⟩ := flight
    obtain ⟨base, skipped, pc⟩ := front.executes_nil
    refine ⟨base, skipped, pc.symm, ?_⟩
    rw [skipped.eq_of_nil]
    exact agree
  | some x =>
    rw [entry] at flight
    obtain ⟨csrs, completes, agree, -⟩ := flight
    refine ⟨m, .refl m, completes.pc, ?_⟩
    rw [agree, completes.csrs_eq]
    rw [← completes.inst]
    exact precise x entry

/-- A pipeline that holds nothing goes on where the machine does. -/
theorem flies_of_empty {settings : PipelineSettings} {m : Machine} {visible : SystemUnit}
    (agree : visible = m.csrs.uncounted) (memWb : Option MemWb) :
    m.Flies settings visible { memWb } m.pc :=
  ⟨agree, m, .refl m, rfl⟩

end Machine

/-! ## The eight ways -/

section Ways

variable {p : Pipeline Memory Memory ReferenceUnit} {m : Machine}

theorem follows_interrupted (sim : Simulates p m) (stall : Bool)
    (precise : ∀ x ∈ p.core.latches.exMem, x.inst.slot? ≠ some .cp0) :
    let inputs : Inputs := { externalStall := stall, interrupt := true }
    let c := p.core.assemble inputs (if stall then none else p.core.latches.memWb)
      (.idle, p.dmem) (.idle, p.core.dispatcher.cycle {} p.bank) .idle (.idle, p.imem)
    Follows p m inputs (c.edge p.core) [] := by
  intro inputs c
  obtain ⟨csrs, units, flight⟩ := sim.flight
  obtain ⟨base, skipped, resume, agree⟩ := flight.executes_nil precise
  have moved := skipped.eq_of_nil
  have leaves := p.core.leavesAt_interrupted p.imem p.dmem p.bank stall
  rw [resume] at leaves
  rw [← skipped.operation_eq] at units
  have units' := units.dispatch_empty p.core.dispatcher
  refine .trap leaves.trap_eq skipped rfl rfl (leaves.simulates ?_ ?_ ?_ rfl units' ?_)
  · rw [moved]
    exact sim.code
  · rw [moved]
    exact sim.data
  · rw [moved]
    change m.regs = _
    rw [sim.regs]
    cases stall <;> rfl
  · exact Machine.flies_of_empty (SystemUnit.uncounted_trapTaken agree _) _

theorem follows_held (sim : Simulates p m) :
    let c := p.core.assemble { externalStall := true } none (.idle, p.dmem)
      (.idle, p.core.dispatcher.cycle (dispatchInputs p.core.latches.idEx true) p.bank) .idle
      (.idle, p.imem)
    Follows p m { externalStall := true } (c.edge p.core) [] := by
  intro c
  obtain ⟨csrs, units, flight⟩ := sim.flight
  have leaves := p.core.leavesAt_held p.imem p.dmem p.bank
  have units' := units.dispatch_held p.core.dispatcher p.core.latches.idEx
  exact .on rfl leaves.trap_eq (.refl m)
    (leaves.simulates sim.code sim.data sim.regs sim.lastTrap units' flight)

theorem follows_dataWaiting (sim : Simulates p m) {pc address : Word}
    (wait : (p.core.memoryWork p.dmem).1 = .waiting pc address) :
    let c := p.core.assemble {} p.core.latches.memWb (p.core.memoryWork p.dmem)
      (.idle, p.core.dispatcher.cycle (dispatchInputs p.core.latches.idEx true) p.bank) .idle
      (.idle, p.imem)
    Follows p m {} (c.edge p.core) [] := by
  intro c
  obtain ⟨csrs, units, flight⟩ := sim.flight
  have leaves := p.core.leavesAt_dataWaiting wait p.imem p.bank
  have units' := units.dispatch_held p.core.dispatcher p.core.latches.idEx
  have data : m.data = (p.core.memoryWork p.dmem).2.storage := by
    rw [sim.data, Core.memoryWork_storage wait]
  exact .on rfl leaves.trap_eq (.refl m)
    (leaves.simulates sim.code data sim.regs sim.lastTrap units' flight)

/-- The memory and execute stages work: the machine has executed what the memory stage holds. -/
theorem exists_worked (sim : Simulates p m)
    (blind : ∀ e ∈ p.core.latches.idEx, ¬ e.inst.readsCounter)
    (memory : (p.core.memoryWork p.dmem).1.apply {} = {}) :
    ∃ n csrs, m.Executes p.core.settings
        ((p.core.memoryWork p.dmem).1.latched?.toList.map (·.commit)) n ∧
      Machine.Written p n ∧ (p.core.executeWork p.bank).2.bank.IsReference n.operation csrs ∧
      n.Works p.core.settings csrs.uncounted p.core.latches.idEx
        (p.core.executeWork p.bank).1 := by
  obtain ⟨csrs, units, flight⟩ := sim.flight
  obtain ⟨n, written, agree, executes⟩ :=
    Machine.exists_written sim.code sim.data sim.regs sim.lastTrap flight memory
  rw [← executes.operation_eq] at units
  obtain ⟨csrs', units', works⟩ := Machine.works units agree written.front blind
  exact ⟨n, csrs', executes, written, units', works⟩

theorem follows_coprocessorWaiting (sim : Simulates p m)
    (blind : ∀ e ∈ p.core.latches.idEx, ¬ e.inst.readsCounter)
    (memory : (p.core.memoryWork p.dmem).1.apply {} = {})
    (wait : (p.core.executeWork p.bank).1 = .waiting) :
    let c := p.core.assemble {} p.core.latches.memWb (p.core.memoryWork p.dmem)
      (p.core.executeWork p.bank) .idle (.idle, p.imem)
    Follows p m {} (c.edge p.core)
      ((p.core.memoryWork p.dmem).1.latched?.toList.map (·.commit)) := by
  intro c
  obtain ⟨n, csrs, executes, written, units, works⟩ := exists_worked sim blind memory
  have leaves := p.core.leavesAt_coprocessorWaiting memory wait p.imem
  rw [wait] at works
  exact .on rfl leaves.trap_eq executes
    (leaves.simulates written.code written.data written.regs written.lastTrap units
      ⟨works, written.front⟩)

theorem follows_trapped (sim : Simulates p m)
    (blind : ∀ e ∈ p.core.latches.idEx, ¬ e.inst.readsCounter)
    (memory : (p.core.memoryWork p.dmem).1.apply {} = {}) {trap : Trap} {target : Word}
    (raised : (p.core.executeWork p.bank).1 = .trapped trap target) :
    let c := p.core.assemble {} p.core.latches.memWb (p.core.memoryWork p.dmem)
      (p.core.executeWork p.bank) .idle (.idle, p.imem)
    Follows p m {} (c.edge p.core)
      ((p.core.memoryWork p.dmem).1.latched?.toList.map (·.commit)) := by
  intro c
  obtain ⟨n, csrs, executes, written, units, works⟩ := exists_worked sim blind memory
  have leaves := p.core.leavesAt_trapped memory raised p.imem
  rw [raised] at works
  obtain ⟨-, pc, step, agree⟩ := works
  exact .trap leaves.trap_eq executes pc step
    (leaves.simulates written.code written.data written.regs rfl units
      (Machine.flies_of_empty (SystemUnit.uncounted_trapTaken agree trap) _))

/-- The execute stage is done with its instruction, and decode has worked as well. What remains to
be said is where decode and fetch leave the front end. -/
theorem follows_of_fronts (sim : Simulates p m)
    (blind : ∀ e ∈ p.core.latches.idEx, ¬ e.inst.readsCounter)
    (memory : (p.core.memoryWork p.dmem).1.apply {} = {})
    (execute : (p.core.executeWork p.bank).1.apply {} = {}) {fetch : FetchOutcome × Memory}
    (storage : fetch.2.storage = p.imem.storage) {ifId : Option IfId} {idEx : Option IdEx}
    {pc : Word} :
    let c := p.core.assemble {} p.core.latches.memWb (p.core.memoryWork p.dmem)
      (p.core.executeWork p.bank) (p.core.decodeWork p.dmem p.bank) fetch
    c.LeavesAt p.core
      { ifId, idEx, exMem := (p.core.executeWork p.bank).1.latched?,
        memWb := (p.core.memoryWork p.dmem).1.latched? } pc none →
    (∀ next : Machine, next.code = p.imem.storage →
      Machine.Fetching next.code next.pc p.core.latches.ifId p.core.pc →
      (∀ r, ((p.core.executeWork p.bank).1.producer.produces r = true →
          (p.core.executeWork p.bank).1.producer.isLoad = false) →
        (Forwarded.resolve r (p.core.committed.read r) (p.core.executeWork p.bank).1.producer
          (p.core.memoryWork p.dmem).1.producer).value = next.regs.read r) →
      next.Fronts p.core.settings idEx ifId pc) →
    Follows p m {} (c.edge p.core)
      ((p.core.memoryWork p.dmem).1.latched?.toList.map (·.commit)) := by
  intro c leaves fronts
  obtain ⟨n, csrs, executes, written, units, works⟩ := exists_worked sim blind memory
  obtain ⟨base, next, skipped, code, fetching, values, flies⟩ :=
    works.exists_next written.front execute
  have moved := skipped.eq_of_nil
  have executes' := executes.trans skipped
  rw [List.append_nil] at executes'
  rw [← skipped.operation_eq] at units
  refine .on rfl leaves.trap_eq executes'
    (leaves.simulates ?_ ?_ ?_ ?_ units ?_)
  · rw [moved]
    exact written.code.trans storage.symm
  · rw [moved]
    exact written.data
  · rw [moved]
    exact written.regs
  · rw [moved]
    exact written.lastTrap
  · refine flies _ _ rfl (fronts next (code.trans written.code) (code ▸ fetching) fun r known => ?_)
    rw [Forwarded.resolve_value _ _ written.small, ← written.regs]
    exact values r known

end Ways

/-! ## Any cycle -/

/-- The machine can follow every cycle in which execute does not read a counter, and an interrupt
finds no instruction of the system unit between execute and the memory stage. -/
theorem Pipeline.tick_follows {p : Pipeline Memory Memory ReferenceUnit} {m : Machine}
    (sim : Simulates p m) (inputs : Inputs)
    (blind : ∀ e ∈ p.core.latches.idEx, ¬ e.inst.readsCounter)
    (precise : inputs.interrupt = true →
      ∀ x ∈ p.core.latches.exMem, x.inst.slot? ≠ some .cp0) :
    Follows p m inputs (p.tick inputs) ((p.moved inputs).toList.map (·.commit)) := by
  have flow := evaluate_flow p.core p.imem p.dmem p.bank inputs
  unfold moved
  change Follows p m inputs ((p.core.evaluate p.imem p.dmem p.bank inputs).edge p.core) _
  generalize p.core.evaluate p.imem p.dmem p.bank inputs = c at flow ⊢
  cases flow with
  | interrupted stall => exact follows_interrupted sim stall (precise rfl)
  | held => exact follows_held sim
  | dataWaiting wait =>
    change Follows _ _ _ _ ((p.core.memoryWork p.dmem).1.latched?.toList.map _)
    rw [wait]
    exact follows_dataWaiting sim wait
  | coprocessorWaiting memory wait => exact follows_coprocessorWaiting sim blind memory wait
  | trapped memory raised => exact follows_trapped sim blind memory raised
  | operandWaiting memory execute wait =>
    refine follows_of_fronts sim blind memory execute rfl
      (p.core.leavesAt_operandWaiting memory execute wait p.imem) fun next _ fetching _ => ?_
    exact fetching.fronts
  | @redirected target memory execute leave =>
    refine follows_of_fronts sim blind memory execute rfl
      (p.core.leavesAt_redirected memory execute leave p.imem) fun next _ fetching values => ?_
    exact (fetching.decode p.core.settings values).2 target leave
  | straight memory execute decode =>
    obtain ⟨fetch, storage⟩ := p.core.fetchWork_cases p.imem
    refine follows_of_fronts sim blind memory execute storage
      (p.core.leavesAt_straight memory execute decode (p.core.fetchWork p.imem))
      fun next code fetching values => ?_
    have front := (fetching.decode p.core.settings values).1 decode
    rcases fetch with wait | fetched
    · rw [wait]
      exact front
    · rw [fetched, ← code]
      exact front.fetched

end FiveStage
