import FiveStage.Pipeline.Tick

/-!
# The flow of a cycle

Each stage sees what the older stages asked for, so a priori a cycle may hold any mixture of stalls
and flushes. In fact it goes in one of eight ways: an interrupt or the environment stops it before
any stage works, or the stages work from the oldest on until one of them asks for something, which
keeps all younger ones idle. `Flow` lists the eight ways with what every stage does in each, and
`evaluate_flow` says that there is no other. What is proved about a cycle is proved by cases on it.
-/

namespace FiveStage

variable {ι δ σ : Type} [MemoryPort ι] [MemoryPort δ] [Coprocessor σ]

/-! ## Stages that have nothing to do -/

/-- Whether a stage has nothing to do: it is emptied, or an older stage holds it. -/
def Interlock.blocks (c : Interlock) (stage : Stage) : Bool :=
  c.flushed stage || c.heldByOlder stage

theorem memoryStage_of_blocks {c : Interlock} (blocked : c.blocks .memory = true)
    (entry : Option ExMem) (port : δ) : memoryStage c entry port = (.idle, port) := by
  cases entry with
  | none => rfl
  | some e => exact if_pos blocked

/-- An emptied execute stage shows the dispatcher no instruction. -/
theorem executeStage_of_flushed {c : Interlock} (flushed : c.flushed .execute = true)
    (trapVector : Word) (entry : Option IdEx) (d : Dispatcher) (bank : Bank σ) :
    executeStage c trapVector entry d bank = (.idle, d.cycle {} bank) := by
  have gone : (entry.filter fun _ => !c.flushed .execute) = none := by simp [flushed]
  unfold executeStage
  rw [gone]
  rfl

/-- A held execute stage shows the dispatcher its instruction, marked as held. -/
theorem executeStage_of_held {c : Interlock} (live : c.flushed .execute = false)
    (held : c.heldByOlder .execute = true) (trapVector : Word) (entry : Option IdEx)
    (d : Dispatcher) (bank : Bank σ) :
    executeStage c trapVector entry d bank =
      (.idle, d.cycle (dispatchInputs entry true) bank) := by
  unfold executeStage
  rw [live, held]
  cases entry <;> rfl

theorem decodeStage_of_blocks {c : Interlock} (blocked : c.blocks .decode = true)
    (forwarding : Bool) (entry : Option IfId) (regs : RegisterFile) (ex mem : Producer) :
    decodeStage c forwarding entry regs ex mem = .idle := by
  cases entry with
  | none => rfl
  | some e => exact if_pos blocked

/-- Fetch makes no request in a cycle with a flush of any stage. -/
theorem fetchStage_of_blocks {c : Interlock}
    (blocked : (c.redirect.isSome || c.heldByOlder .fetch) = true) (pc : Word) (port : ι) :
    fetchStage c pc port = (.idle, port) :=
  if_pos blocked

theorem retire_requested (p : Core) (inputs : Inputs) (entry : Option MemWb) :
    retire (p.requested inputs) entry = if inputs.externalStall then none else entry := by
  obtain ⟨stall, interrupt⟩ := inputs
  cases stall <;> cases interrupt <;> cases entry <;> rfl

/-! ## What a stage asks for -/

theorem MemoryOutcome.waiting_or_apply_eq (m : MemoryOutcome) :
    (∃ pc address, m = .waiting pc address) ∨ m.apply {} = {} := by
  cases m with
  | idle => exact .inr rfl
  | waiting pc address => exact .inl ⟨pc, address, rfl⟩
  | done e => exact .inr rfl

theorem ExecuteOutcome.waiting_or_trapped_or_apply_eq (x : ExecuteOutcome) :
    x = .waiting ∨ (∃ trap target, x = .trapped trap target) ∨ x.apply {} = {} := by
  cases x with
  | idle => exact .inr (.inr rfl)
  | waiting => exact .inl rfl
  | trapped trap target => exact .inr (.inl ⟨trap, target, rfl⟩)
  | done e => exact .inr (.inr rfl)

/-- Decode asks for a stall of itself, for a flush of fetch, or for nothing. -/
theorem DecodeOutcome.apply_cases (d : DecodeOutcome) :
    (∃ reason, d.apply {} = ({} : Interlock).stall reason .decode) ∨
      (∃ target, d.apply {} = ({} : Interlock).flush .branchMispredict .fetch target) ∨
      d.apply {} = {} := by
  cases d with
  | idle => exact .inr (.inr rfl)
  | dropped e => exact .inr (.inr rfl)
  | loadUse e hazards register => exact .inl ⟨_, rfl⟩
  | rawHazard e hazards => exact .inl ⟨_, rfl⟩
  | issued e hazards operands redirect =>
    cases redirect with
    | none => exact .inr (.inr rfl)
    | some r => exact .inr (.inl ⟨r.2, rfl⟩)

/-! ## The work of the stages -/

namespace Core

/-- The registers once writeback has committed its instruction. -/
def committed (p : Core) : RegisterFile :=
  p.regs.commit p.latches.memWb

/-- What the memory stage does if nothing blocks it. -/
def memoryWork (p : Core) (dmem : δ) : MemoryOutcome × δ :=
  memoryStage {} p.latches.exMem dmem

/-- What the execute stage does if nothing blocks it. -/
def executeWork (p : Core) (bank : Bank σ) : ExecuteOutcome × DispatchCycle σ :=
  executeStage {} p.settings.trapVector p.latches.idEx p.dispatcher bank

/-- What the decode stage does if all older stages work. -/
def decodeWork (p : Core) (dmem : δ) (bank : Bank σ) : DecodeOutcome :=
  decodeStage {} p.settings.forwarding p.latches.ifId p.committed
    (p.executeWork bank).1.producer (p.memoryWork dmem).1.producer

/-- What the fetch stage does if nothing blocks it. -/
def fetchWork (p : Core) (imem : ι) : FetchOutcome × ι :=
  fetchStage {} p.pc imem

/-- Fetch hands on the word that it reads, or waits for it. -/
theorem fetchWork_of_answer (p : Core) {imem : ι} {ready : Bool} {word : Word}
    (answer : (MemoryPort.access imem (.read p.pc)).1 = { ready := ready, data := word }) :
    (p.fetchWork imem).1 =
      if ready then .fetched { pc := p.pc, inst := word } else .waiting p.pc := by
  change (if (MemoryPort.access imem (.read p.pc)).1.ready then _ else _) = _
  rw [answer]

/-- The cycle that the results of the stages make up. -/
def assemble (p : Core) (inputs : Inputs) (retired : Option MemWb) (memory : MemoryOutcome × δ)
    (execute : ExecuteOutcome × DispatchCycle σ) (decode : DecodeOutcome)
    (fetch : FetchOutcome × ι) : Cycle ι δ σ where
  interrupt := p.interrupt? inputs
  retired
  memory := memory.1
  execute := execute.1
  dispatch := execute.2
  decode
  fetch := fetch.1
  interlock :=
    fetch.1.apply (decode.apply (execute.1.apply (memory.1.apply (p.requested inputs))))
  regs := p.regs.commit retired
  imem := fetch.2
  dmem := memory.2

end Core

/-- The ways in which a cycle can go, the oldest cause first. -/
inductive Flow (p : Core) (imem : ι) (dmem : δ) (bank : Bank σ) :
    Inputs → Cycle ι δ σ → Prop where
  /-- An interrupt empties all stages but writeback, which the environment may hold. -/
  | interrupted (stall : Bool) :
      Flow p imem dmem bank { externalStall := stall, interrupt := true }
        (p.assemble { externalStall := stall, interrupt := true }
          (if stall then none else p.latches.memWb) (.idle, dmem)
          (.idle, p.dispatcher.cycle {} bank) .idle (.idle, imem))
  /-- The environment holds all stages. -/
  | held :
      Flow p imem dmem bank { externalStall := true }
        (p.assemble { externalStall := true } none (.idle, dmem)
          (.idle, p.dispatcher.cycle (dispatchInputs p.latches.idEx true) bank) .idle
          (.idle, imem))
  /-- The data port does not answer. -/
  | dataWaiting {pc address : Word} (wait : (p.memoryWork dmem).1 = .waiting pc address) :
      Flow p imem dmem bank {}
        (p.assemble {} p.latches.memWb (p.memoryWork dmem)
          (.idle, p.dispatcher.cycle (dispatchInputs p.latches.idEx true) bank) .idle
          (.idle, imem))
  /-- The addressed coprocessor is not ready. -/
  | coprocessorWaiting (memory : (p.memoryWork dmem).1.apply {} = {})
      (wait : (p.executeWork bank).1 = .waiting) :
      Flow p imem dmem bank {}
        (p.assemble {} p.latches.memWb (p.memoryWork dmem) (p.executeWork bank) .idle
          (.idle, imem))
  /-- The addressed coprocessor raises its exception line. -/
  | trapped {trap : Trap} {target : Word} (memory : (p.memoryWork dmem).1.apply {} = {})
      (raised : (p.executeWork bank).1 = .trapped trap target) :
      Flow p imem dmem bank {}
        (p.assemble {} p.latches.memWb (p.memoryWork dmem) (p.executeWork bank) .idle
          (.idle, imem))
  /-- Decode waits for an operand. -/
  | operandWaiting {reason : StallReason} (memory : (p.memoryWork dmem).1.apply {} = {})
      (execute : (p.executeWork bank).1.apply {} = {})
      (wait : (p.decodeWork dmem bank).apply {} = ({} : Interlock).stall reason .decode) :
      Flow p imem dmem bank {}
        (p.assemble {} p.latches.memWb (p.memoryWork dmem) (p.executeWork bank)
          (p.decodeWork dmem bank) (.idle, imem))
  /-- Decode sends fetch elsewhere. -/
  | redirected {target : Word} (memory : (p.memoryWork dmem).1.apply {} = {})
      (execute : (p.executeWork bank).1.apply {} = {})
      (leave : (p.decodeWork dmem bank).apply {} =
        ({} : Interlock).flush .branchMispredict .fetch target) :
      Flow p imem dmem bank {}
        (p.assemble {} p.latches.memWb (p.memoryWork dmem) (p.executeWork bank)
          (p.decodeWork dmem bank) (.idle, imem))
  /-- All stages work, and only fetch may wait. -/
  | straight (memory : (p.memoryWork dmem).1.apply {} = {})
      (execute : (p.executeWork bank).1.apply {} = {})
      (decode : (p.decodeWork dmem bank).apply {} = {}) :
      Flow p imem dmem bank {}
        (p.assemble {} p.latches.memWb (p.memoryWork dmem) (p.executeWork bank)
          (p.decodeWork dmem bank) (p.fetchWork imem))

/-! ## Every cycle has a flow -/

theorem evaluate_interrupted (p : Core) (imem : ι) (dmem : δ) (bank : Bank σ) (stall : Bool) :
    p.evaluate imem dmem bank { externalStall := stall, interrupt := true } =
      p.assemble { externalStall := stall, interrupt := true }
        (if stall then none else p.latches.memWb) (.idle, dmem)
        (.idle, p.dispatcher.cycle {} bank) .idle (.idle, imem) := by
  have blocked (stage : Stage) (young : stage ≤ .memory) :
      (p.requested { externalStall := stall, interrupt := true }).blocks stage = true := by
    cases stall <;> cases stage <;> first | rfl | exact absurd young (by decide)
  have flushed :
      (p.requested { externalStall := stall, interrupt := true }).flushed .execute = true := by
    cases stall <;> rfl
  have redirected :
      (p.requested { externalStall := stall, interrupt := true }).redirect.isSome = true := by
    cases stall <;> rfl
  unfold Core.evaluate
  simp only [retire_requested, memoryStage_of_blocks (blocked .memory (by decide)),
    MemoryOutcome.apply, executeStage_of_flushed flushed, ExecuteOutcome.apply,
    decodeStage_of_blocks (blocked .decode (by decide)), DecodeOutcome.apply,
    fetchStage_of_blocks (by rw [redirected]; rfl)]
  rfl

theorem evaluate_held (p : Core) (imem : ι) (dmem : δ) (bank : Bank σ) :
    p.evaluate imem dmem bank { externalStall := true } =
      p.assemble { externalStall := true } none (.idle, dmem)
        (.idle, p.dispatcher.cycle (dispatchInputs p.latches.idEx true) bank) .idle
        (.idle, imem) := by
  have memory := memoryStage_of_blocks (c := p.requested { externalStall := true }) rfl
    p.latches.exMem dmem
  have execute := executeStage_of_held (c := p.requested { externalStall := true }) rfl rfl
    p.settings.trapVector p.latches.idEx p.dispatcher bank
  have decode := decodeStage_of_blocks (c := p.requested { externalStall := true }) rfl
    p.settings.forwarding p.latches.ifId
  have fetch := fetchStage_of_blocks (c := p.requested { externalStall := true }) rfl p.pc imem
  unfold Core.evaluate
  simp only [retire_requested, memory, MemoryOutcome.apply, execute, ExecuteOutcome.apply, decode,
    DecodeOutcome.apply, fetch]
  rfl

/-- A quiet cycle: the memory stage works whatever the younger stages do. -/
theorem evaluate_quiet (p : Core) (imem : ι) (dmem : δ) (bank : Bank σ) :
    p.evaluate imem dmem bank {} =
      let memory := p.memoryWork dmem
      let asked := memory.1.apply {}
      let execute :=
        executeStage asked p.settings.trapVector p.latches.idEx p.dispatcher bank
      let asked := execute.1.apply asked
      let decode :=
        decodeStage asked p.settings.forwarding p.latches.ifId p.committed execute.1.producer
          memory.1.producer
      p.assemble {} p.latches.memWb memory execute decode
        (fetchStage (decode.apply asked) p.pc imem) := by
  unfold Core.evaluate
  simp only [retire_requested]
  rfl

/-- A quiet cycle in which the memory stage asks for nothing. -/
theorem evaluate_of_memory {p : Core} {dmem : δ} (memory : (p.memoryWork dmem).1.apply {} = {})
    (imem : ι) (bank : Bank σ) :
    p.evaluate imem dmem bank {} =
      let asked := (p.executeWork bank).1.apply {}
      let decode :=
        decodeStage asked p.settings.forwarding p.latches.ifId p.committed
          (p.executeWork bank).1.producer (p.memoryWork dmem).1.producer
      p.assemble {} p.latches.memWb (p.memoryWork dmem) (p.executeWork bank) decode
        (fetchStage (decode.apply asked) p.pc imem) := by
  rw [evaluate_quiet]
  simp only [memory]
  rfl

/-- A quiet cycle in which the execute stage asks for nothing either. -/
theorem evaluate_of_execute {p : Core} {dmem : δ} {bank : Bank σ}
    (memory : (p.memoryWork dmem).1.apply {} = {})
    (execute : (p.executeWork bank).1.apply {} = {}) (imem : ι) :
    p.evaluate imem dmem bank {} =
      p.assemble {} p.latches.memWb (p.memoryWork dmem) (p.executeWork bank)
        (p.decodeWork dmem bank)
        (fetchStage ((p.decodeWork dmem bank).apply {}) p.pc imem) := by
  rw [evaluate_of_memory memory]
  simp only [execute]
  rfl

/-- Every cycle goes in one of the eight ways. -/
theorem evaluate_flow (p : Core) (imem : ι) (dmem : δ) (bank : Bank σ) (inputs : Inputs) :
    Flow p imem dmem bank inputs (p.evaluate imem dmem bank inputs) := by
  obtain ⟨stall, interrupt⟩ := inputs
  cases interrupt with
  | true => exact evaluate_interrupted p imem dmem bank stall ▸ .interrupted stall
  | false =>
    cases stall with
    | true => exact evaluate_held p imem dmem bank ▸ .held
    | false =>
      -- The first stage that asks for something decides, the oldest one first.
      rcases (p.memoryWork dmem).1.waiting_or_apply_eq with ⟨pc, address, wait⟩ | memory
      · rw [evaluate_quiet]
        simp only [wait, MemoryOutcome.apply]
        rw [executeStage_of_held rfl rfl, decodeStage_of_blocks rfl, fetchStage_of_blocks rfl]
        exact .dataWaiting wait
      · rcases (p.executeWork bank).1.waiting_or_trapped_or_apply_eq with
          wait | ⟨trap, target, raised⟩ | execute
        · rw [evaluate_of_memory memory]
          simp only [wait, ExecuteOutcome.apply]
          rw [decodeStage_of_blocks rfl, fetchStage_of_blocks rfl]
          exact .coprocessorWaiting memory wait
        · rw [evaluate_of_memory memory]
          simp only [raised, ExecuteOutcome.apply]
          rw [decodeStage_of_blocks rfl, fetchStage_of_blocks rfl]
          exact .trapped memory raised
        · rw [evaluate_of_execute memory execute]
          rcases (p.decodeWork dmem bank).apply_cases with
            ⟨reason, wait⟩ | ⟨target, leave⟩ | decode
          · rw [wait, fetchStage_of_blocks rfl]
            exact .operandWaiting memory execute wait
          · rw [leave, fetchStage_of_blocks rfl]
            exact .redirected memory execute leave
          · rw [decode]
            exact .straight memory execute decode

/-- A clock cycle of the pipeline is the clock edge of a cycle that has a flow. -/
theorem Pipeline.tick_flow (p : Pipeline ι δ σ) (inputs : Inputs) :
    ∃ c, Flow p.core p.imem p.dmem p.bank inputs c ∧ p.tick inputs = c.edge p.core :=
  ⟨_, evaluate_flow p.core p.imem p.dmem p.bank inputs, rfl⟩

end FiveStage
