import FiveStage.Proofs.Pipeline.Execute

/-!
# The clock edge

What the stages have asked for by the end of a cycle, and where the clock edge leaves the latches,
the program counter and the reference bank, for each way in which a cycle can go.
-/

namespace FiveStage

namespace Latches

variable (current incoming : Latches)

theorem next_clear : next {} current incoming = incoming := rfl

theorem next_stall_writeback (reason : StallReason) :
    next (({} : Interlock).stall reason .writeback) current incoming = current := rfl

theorem next_stall_memory (reason : StallReason) :
    next (({} : Interlock).stall reason .memory) current incoming =
      { current with memWb := none } := rfl

theorem next_stall_execute (reason : StallReason) :
    next (({} : Interlock).stall reason .execute) current incoming =
      { current with exMem := none, memWb := incoming.memWb } := rfl

theorem next_stall_decode (reason : StallReason) :
    next (({} : Interlock).stall reason .decode) current incoming =
      { incoming with ifId := current.ifId, idEx := none } := rfl

theorem next_stall_fetch (reason : StallReason) :
    next (({} : Interlock).stall reason .fetch) current incoming =
      { incoming with ifId := none } := rfl

theorem next_flush_fetch (reason : FlushReason) (target : Word) :
    next (({} : Interlock).flush reason .fetch target) current incoming =
      { incoming with ifId := none } := rfl

theorem next_flush_execute (reason : FlushReason) (target : Word) :
    next (({} : Interlock).flush reason .execute target) current incoming =
      { memWb := incoming.memWb } := rfl

/-- An interrupt leaves at most what the environment holds in writeback. -/
theorem next_interrupt (p : Core) (stall : Bool) :
    next (p.requested { externalStall := stall, interrupt := true }) current incoming =
      { memWb := if stall then current.memWb else none } := by
  cases stall <;> rfl

end Latches

namespace Cycle

variable {ι δ σ : Type} {c : Cycle ι δ σ}

theorem nextPc_of_target {target : Word} (flush : c.interlock.target = some target) (pc : Word) :
    c.nextPc pc = target := by
  unfold nextPc
  rw [flush]

theorem nextPc_of_stall (straight : c.interlock.target = none)
    (stall : c.interlock.stallPoint.isSome = true) (pc : Word) : c.nextPc pc = pc := by
  unfold nextPc
  rw [straight, stall]
  rfl

/-- Where a cycle that started from `p` leaves the latches and the program counter, and the trap
that it takes. -/
structure LeavesAt (c : Cycle ι δ σ) (p : Core) (latches : Latches) (pc : Word)
    (trap : Option Trap) : Prop where
  latches_eq : p.latches.next c.interlock c.incoming = latches
  pc_eq : c.nextPc p.pc = pc
  trap_eq : c.trap? = trap

end Cycle

/-- An execute stage that asks for nothing takes no trap. -/
theorem ExecuteOutcome.trap?_or_none {execute : ExecuteOutcome} (quiet : execute.apply {} = {}) :
    execute.trap?.or none = none := by
  cases execute with
  | trapped trap target => cases congrArg Interlock.redirect quiet
  | _ => rfl

namespace Core

variable {ι δ σ : Type} (p : Core)

/-- What each older stage does before decode in a cycle without a stall or a flush. -/
theorem assemble_interlock [MemoryPort δ] {dmem : δ}
    (memory : (p.memoryWork dmem).1.apply {} = {}) (execute : ExecuteOutcome × DispatchCycle σ)
    (decode : DecodeOutcome) (fetch : FetchOutcome × ι) :
    (p.assemble {} p.latches.memWb (p.memoryWork dmem) execute decode fetch).interlock =
      fetch.1.apply (decode.apply (execute.1.apply {})) := by
  change fetch.1.apply (decode.apply (execute.1.apply ((p.memoryWork dmem).1.apply {}))) = _
  rw [memory]

variable [Coprocessor σ]

theorem interlock_interrupted (imem : ι) (dmem : δ) (bank : Bank σ) (stall : Bool) :
    (p.assemble { externalStall := stall, interrupt := true }
      (if stall then none else p.latches.memWb) (.idle, dmem)
      (.idle, p.dispatcher.cycle {} bank) .idle (.idle, imem)).interlock =
        (if stall then ({} : Interlock).stall .externalStall .writeback else {}).flush .interrupt
          .memory p.settings.interruptVector := by
  cases stall <;> rfl

theorem leavesAt_interrupted (imem : ι) (dmem : δ) (bank : Bank σ) (stall : Bool) :
    (p.assemble { externalStall := stall, interrupt := true }
      (if stall then none else p.latches.memWb) (.idle, dmem)
      (.idle, p.dispatcher.cycle {} bank) .idle (.idle, imem)).LeavesAt p
        { memWb := if stall then p.latches.memWb else none } p.settings.interruptVector
        (some { cause := .externalInterrupt, pc := p.resumePc }) where
  latches_eq := Latches.next_interrupt _ _ p stall
  pc_eq := by
    refine Cycle.nextPc_of_target ?_ _
    cases stall <;> rfl
  trap_eq := rfl

theorem leavesAt_held (imem : ι) (dmem : δ) (bank : Bank σ) :
    (p.assemble { externalStall := true } none (.idle, dmem)
      (.idle, p.dispatcher.cycle (dispatchInputs p.latches.idEx true) bank) .idle
      (.idle, imem)).LeavesAt p p.latches p.pc none where
  latches_eq := Latches.next_stall_writeback _ _ _
  pc_eq := Cycle.nextPc_of_stall rfl rfl _
  trap_eq := rfl

variable [MemoryPort δ] {dmem : δ}

theorem interlock_dataWaiting {pc address : Word}
    (wait : (p.memoryWork dmem).1 = .waiting pc address) (imem : ι) (bank : Bank σ) :
    (p.assemble {} p.latches.memWb (p.memoryWork dmem)
      (.idle, p.dispatcher.cycle (dispatchInputs p.latches.idEx true) bank) .idle
      (.idle, imem)).interlock = ({} : Interlock).stall .memoryNotReady .memory := by
  change (p.memoryWork dmem).1.apply {} = _
  rw [wait]
  rfl

theorem leavesAt_dataWaiting {pc address : Word}
    (wait : (p.memoryWork dmem).1 = .waiting pc address) (imem : ι) (bank : Bank σ) :
    (p.assemble {} p.latches.memWb (p.memoryWork dmem)
      (.idle, p.dispatcher.cycle (dispatchInputs p.latches.idEx true) bank) .idle
      (.idle, imem)).LeavesAt p { p.latches with memWb := none } p.pc none := by
  have interlock := p.interlock_dataWaiting wait imem bank
  refine ⟨?_, Cycle.nextPc_of_stall ?_ ?_ _, rfl⟩
  · rw [interlock, Latches.next_stall_memory]
  · rw [interlock]
    rfl
  · rw [interlock]
    rfl

variable {bank : Bank σ}

theorem interlock_coprocessorWaiting (memory : (p.memoryWork dmem).1.apply {} = {})
    (wait : (p.executeWork bank).1 = .waiting) (imem : ι) :
    (p.assemble {} p.latches.memWb (p.memoryWork dmem) (p.executeWork bank) .idle
      (.idle, imem)).interlock = ({} : Interlock).stall .coprocessorNotReady .execute := by
  rw [p.assemble_interlock memory, wait]
  rfl

theorem leavesAt_coprocessorWaiting (memory : (p.memoryWork dmem).1.apply {} = {})
    (wait : (p.executeWork bank).1 = .waiting) (imem : ι) :
    (p.assemble {} p.latches.memWb (p.memoryWork dmem) (p.executeWork bank) .idle
      (.idle, imem)).LeavesAt p
        { p.latches with exMem := none, memWb := (p.memoryWork dmem).1.latched? } p.pc none := by
  have interlock := p.interlock_coprocessorWaiting memory wait imem
  refine ⟨?_, Cycle.nextPc_of_stall ?_ ?_ _, ?_⟩
  · rw [interlock]
    exact Latches.next_stall_execute ..
  · rw [interlock]
    rfl
  · rw [interlock]
    rfl
  · change (p.executeWork bank).1.trap?.or none = none
    rw [wait]
    rfl

theorem interlock_trapped (memory : (p.memoryWork dmem).1.apply {} = {}) {trap : Trap}
    {target : Word} (raised : (p.executeWork bank).1 = .trapped trap target) (imem : ι) :
    (p.assemble {} p.latches.memWb (p.memoryWork dmem) (p.executeWork bank) .idle
      (.idle, imem)).interlock = ({} : Interlock).flush .exception .execute target := by
  rw [p.assemble_interlock memory, raised]
  rfl

theorem leavesAt_trapped (memory : (p.memoryWork dmem).1.apply {} = {}) {trap : Trap}
    {target : Word} (raised : (p.executeWork bank).1 = .trapped trap target) (imem : ι) :
    (p.assemble {} p.latches.memWb (p.memoryWork dmem) (p.executeWork bank) .idle
      (.idle, imem)).LeavesAt p { memWb := (p.memoryWork dmem).1.latched? } target
        (some trap) := by
  have interlock := p.interlock_trapped memory raised imem
  refine ⟨?_, Cycle.nextPc_of_target ?_ _, ?_⟩
  · rw [interlock]
    exact Latches.next_flush_execute ..
  · rw [interlock]
    rfl
  · change (p.executeWork bank).1.trap?.or none = some trap
    rw [raised]
    rfl

variable (memory : (p.memoryWork dmem).1.apply {} = {})
  (execute : (p.executeWork bank).1.apply {} = {}) {decode : DecodeOutcome}
include memory execute

theorem interlock_operandWaiting {reason : StallReason}
    (wait : decode.apply {} = ({} : Interlock).stall reason .decode) (imem : ι) :
    (p.assemble {} p.latches.memWb (p.memoryWork dmem) (p.executeWork bank) decode
      (.idle, imem)).interlock = ({} : Interlock).stall reason .decode := by
  rw [p.assemble_interlock memory, execute, wait]
  rfl

theorem leavesAt_operandWaiting {reason : StallReason}
    (wait : decode.apply {} = ({} : Interlock).stall reason .decode) (imem : ι) :
    (p.assemble {} p.latches.memWb (p.memoryWork dmem) (p.executeWork bank) decode
      (.idle, imem)).LeavesAt p
        { ifId := p.latches.ifId, exMem := (p.executeWork bank).1.latched?,
          memWb := (p.memoryWork dmem).1.latched? } p.pc none := by
  have interlock := p.interlock_operandWaiting memory execute wait imem
  refine ⟨?_, Cycle.nextPc_of_stall ?_ ?_ _, ExecuteOutcome.trap?_or_none execute⟩
  · rw [interlock]
    exact Latches.next_stall_decode ..
  · rw [interlock]
    rfl
  · rw [interlock]
    rfl

theorem interlock_redirected {target : Word}
    (leave : decode.apply {} = ({} : Interlock).flush .branchMispredict .fetch target)
    (imem : ι) :
    (p.assemble {} p.latches.memWb (p.memoryWork dmem) (p.executeWork bank) decode
      (.idle, imem)).interlock = ({} : Interlock).flush .branchMispredict .fetch target := by
  rw [p.assemble_interlock memory, execute, leave]
  rfl

theorem leavesAt_redirected {target : Word}
    (leave : decode.apply {} = ({} : Interlock).flush .branchMispredict .fetch target)
    (imem : ι) :
    (p.assemble {} p.latches.memWb (p.memoryWork dmem) (p.executeWork bank) decode
      (.idle, imem)).LeavesAt p
        { idEx := decode.latched?, exMem := (p.executeWork bank).1.latched?,
          memWb := (p.memoryWork dmem).1.latched? } target none := by
  have interlock := p.interlock_redirected memory execute leave imem
  refine ⟨?_, Cycle.nextPc_of_target ?_ _, ExecuteOutcome.trap?_or_none execute⟩
  · rw [interlock]
    exact Latches.next_flush_fetch ..
  · rw [interlock]
    rfl

theorem interlock_straight (straight : decode.apply {} = {}) (fetch : FetchOutcome × ι) :
    (p.assemble {} p.latches.memWb (p.memoryWork dmem) (p.executeWork bank) decode
      fetch).interlock = fetch.1.apply {} := by
  rw [p.assemble_interlock memory, execute, straight]

theorem leavesAt_straight (straight : decode.apply {} = {}) (fetch : FetchOutcome × ι) :
    (p.assemble {} p.latches.memWb (p.memoryWork dmem) (p.executeWork bank) decode
      fetch).LeavesAt p
        { ifId := fetch.1.latched?, idEx := decode.latched?,
          exMem := (p.executeWork bank).1.latched?, memWb := (p.memoryWork dmem).1.latched? }
        (if fetch.1.latched?.isSome then p.pc + 4 else p.pc) none := by
  have interlock := p.interlock_straight memory execute straight fetch
  obtain ⟨outcome, imem⟩ := fetch
  refine ⟨?_, ?_, ExecuteOutcome.trap?_or_none execute⟩
  · rw [interlock]
    cases outcome with
    | waiting pc => exact Latches.next_stall_fetch ..
    | _ => exact Latches.next_clear ..
  · unfold Cycle.nextPc
    rw [interlock]
    cases outcome <;> rfl

end Core

namespace Pipeline

variable {ι δ σ : Type} [MemoryPort ι] [MemoryPort δ] [Coprocessor σ]

/-- What is between execute and the memory stage was there before, or was issued before. -/
theorem tick_exMem (p : Pipeline ι δ σ) (inputs : Inputs) {x : ExMem}
    (entry : x ∈ (p.tick inputs).next.core.latches.exMem) :
    x ∈ p.core.latches.exMem ∨ ∃ e ∈ p.core.latches.idEx, e.Becomes x := by
  obtain ⟨c, flow, edge⟩ := p.tick_flow inputs
  rw [edge] at entry
  change x ∈ (p.core.latches.next c.interlock c.incoming).exMem at entry
  cases flow with
  | interrupted stall =>
    rw [(p.core.leavesAt_interrupted p.imem p.dmem p.bank stall).latches_eq] at entry
    cases entry
  | held =>
    rw [(p.core.leavesAt_held p.imem p.dmem p.bank).latches_eq] at entry
    exact .inl entry
  | dataWaiting wait =>
    rw [(p.core.leavesAt_dataWaiting wait p.imem p.bank).latches_eq] at entry
    exact .inl entry
  | coprocessorWaiting memory wait =>
    rw [(p.core.leavesAt_coprocessorWaiting memory wait p.imem).latches_eq] at entry
    cases entry
  | trapped memory raised =>
    rw [(p.core.leavesAt_trapped memory raised p.imem).latches_eq] at entry
    cases entry
  | operandWaiting memory execute wait =>
    rw [(p.core.leavesAt_operandWaiting memory execute wait p.imem).latches_eq] at entry
    exact .inr (Core.executeWork_latched entry)
  | redirected memory execute leave =>
    rw [(p.core.leavesAt_redirected memory execute leave p.imem).latches_eq] at entry
    exact .inr (Core.executeWork_latched entry)
  | straight memory execute decode =>
    rw [(p.core.leavesAt_straight memory execute decode _).latches_eq] at entry
    exact .inr (Core.executeWork_latched entry)

/-- What the memory stage hands on in a cycle. -/
def moved (p : Pipeline ι δ σ) (inputs : Inputs) : Option MemWb :=
  (p.core.evaluate p.imem p.dmem p.bank inputs).memory.latched?

/-- The last latch empties into writeback, unless it is held, and takes what the memory stage hands
on. -/
theorem retired_append_memWb (p : Pipeline ι δ σ) (inputs : Inputs) :
    (p.tick inputs).report.retired.toList ++ (p.tick inputs).next.core.latches.memWb.toList =
      p.core.latches.memWb.toList ++ (p.moved inputs).toList := by
  have flow := evaluate_flow p.core p.imem p.dmem p.bank inputs
  unfold moved
  change (p.core.evaluate p.imem p.dmem p.bank inputs).retired.toList ++
    (p.core.latches.next (p.core.evaluate p.imem p.dmem p.bank inputs).interlock
      (p.core.evaluate p.imem p.dmem p.bank inputs).incoming).memWb.toList = _
  generalize p.core.evaluate p.imem p.dmem p.bank inputs = c at flow ⊢
  cases flow with
  | interrupted stall =>
    rw [(p.core.leavesAt_interrupted p.imem p.dmem p.bank stall).latches_eq]
    cases stall
    · rfl
    · exact (List.append_nil _).symm
  | held =>
    rw [(p.core.leavesAt_held p.imem p.dmem p.bank).latches_eq]
    exact (List.append_nil _).symm
  | dataWaiting wait =>
    rw [(p.core.leavesAt_dataWaiting wait p.imem p.bank).latches_eq]
    change _ = _ ++ (p.core.memoryWork p.dmem).1.latched?.toList
    rw [wait]
    rfl
  | coprocessorWaiting memory wait =>
    rw [(p.core.leavesAt_coprocessorWaiting memory wait p.imem).latches_eq]
    rfl
  | trapped memory raised =>
    rw [(p.core.leavesAt_trapped memory raised p.imem).latches_eq]
    rfl
  | operandWaiting memory execute wait =>
    rw [(p.core.leavesAt_operandWaiting memory execute wait p.imem).latches_eq]
    rfl
  | redirected memory execute leave =>
    rw [(p.core.leavesAt_redirected memory execute leave p.imem).latches_eq]
    rfl
  | straight memory execute decode =>
    rw [(p.core.leavesAt_straight memory execute decode _).latches_eq]
    rfl

end Pipeline

namespace Cycle

variable {ι δ : Type} {c : Cycle ι δ ReferenceUnit} {operation : Operation}

/-- What the clock edge tells the reference bank: that an instruction retired only counts. -/
theorem nextBank_isReference {csrs : SystemUnit}
    (h : c.dispatch.bank.IsReference operation csrs) :
    ∃ csrs', c.nextBank.IsReference operation csrs' ∧
      csrs'.uncounted = (csrs.notified c.trap?).uncounted := by
  have counted : ∃ csrs', c.notifiedBank.IsReference operation csrs' ∧
      csrs'.uncounted = csrs.uncounted := by
    unfold notifiedBank
    cases c.retired.isSome with
    | true => exact ⟨_, h.retired, rfl⟩
    | false => exact ⟨_, h, rfl⟩
  obtain ⟨csrs', units, agree⟩ := counted
  refine ⟨csrs'.notified c.trap?, ?_, SystemUnit.uncounted_notified agree c.trap?⟩
  unfold nextBank
  cases c.trap? with
  | some trap => exact units.trapTaken trap
  | none => exact units

end Cycle

/-- The bank stays a reference bank. -/
theorem Pipeline.tick_isReference {ι δ : Type} [MemoryPort ι] [MemoryPort δ]
    {p : Pipeline ι δ ReferenceUnit} {operation : Operation} {csrs : SystemUnit}
    (units : p.bank.IsReference operation csrs) (inputs : Inputs) :
    ∃ csrs', (p.tick inputs).next.bank.IsReference operation csrs' := by
  have cycled : (p.core.evaluate p.imem p.dmem p.bank inputs).dispatch.bank.IsReference _ _ :=
    units.cycle _ _
  obtain ⟨csrs', units', -⟩ := Cycle.nextBank_isReference cycled
  exact ⟨csrs', units'⟩

end FiveStage
