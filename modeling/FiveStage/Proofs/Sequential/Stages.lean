import FiveStage.Memory.Timed
import FiveStage.Pipeline.Schedule
import FiveStage.Proofs.Pipeline.Execute
import FiveStage.Proofs.Pipeline.Operands

/-!
# The sequential machine by stages

What the machine does with one instruction, cut into the steps that the pipeline makes of it: the
entry that decode issues, the entry that execute leaves of it, and that entry with its access done.
-/

namespace FiveStage

namespace Control

theorem decode_memRead {inst : Instruction} (load : (decode inst).memRead = true) :
    (decode inst).memWrite = false ∧ (decode inst).jump = false ∧ (decode inst).jalr = false := by
  unfold decode at *
  split at load <;> simp_all [bubble]

theorem decode_memWrite {inst : Instruction} (store : (decode inst).memWrite = true) :
    (decode inst).jump = false ∧ (decode inst).jalr = false := by
  unfold decode at *
  split at store <;> simp_all [bubble]

/-- An instruction of a coprocessor neither accesses memory nor branches. -/
theorem decode_of_slot {inst : Instruction} {slot : Slot} (owned : inst.slot? = some slot) :
    (decode inst).memRead = false ∧ (decode inst).memWrite = false ∧
      (decode inst).branch = false ∧ (decode inst).jump = false ∧ (decode inst).jalr = false := by
  unfold Instruction.slot? at owned
  unfold decode
  split at owned <;> simp_all [bubble]

end Control

/-! ## Memory accesses -/

namespace ExMem

/-- An instruction with its memory access done, and the storage after that. -/
def finish (e : ExMem) (s : Storage) : MemWb × Storage :=
  match e.request? with
  | none => (e.complete e.result, s)
  | some req =>
      let answer := Memory.perform s req
      (e.accessed answer.1.data, answer.2)

/-- An access that is done at once is one that the memory stage may make. -/
theorem becomes_finish (e : ExMem) (s : Storage) : e.Becomes (e.finish s).1 := by
  unfold finish
  cases e.request? with
  | none => exact e.becomes_complete
  | some req => exact e.becomes_accessed _

@[simp]
theorem finish_pc (e : ExMem) (s : Storage) : (e.finish s).1.pc = e.pc :=
  (e.becomes_finish s).pc

@[simp]
theorem finish_inst (e : ExMem) (s : Storage) : (e.finish s).1.inst = e.inst :=
  (e.becomes_finish s).inst

@[simp]
theorem finish_rd (e : ExMem) (s : Storage) : (e.finish s).1.rd = e.rd :=
  (e.becomes_finish s).rd

@[simp]
theorem finish_writes (e : ExMem) (s : Storage) : (e.finish s).1.writes = e.writes :=
  (e.becomes_finish s).writes

/-- The value is loaded or is the result that execute left. -/
theorem finish_value (e : ExMem) (s : Storage)
    (single : e.ctrl.memRead = true → e.ctrl.memWrite = false) :
    (e.finish s).1.value =
      if e.ctrl.memRead then Lanes.loadData e.inst.funct3.toNat e.result (s.read e.result)
      else e.result := by
  unfold finish request?
  cases read : e.ctrl.memRead with
  | true => simp [single read, accessed, complete, read, Memory.perform, MemoryRequest.read]
  | false => cases e.ctrl.memWrite <;> simp [accessed, complete, read]

/-- Only a store changes the storage. -/
theorem finish_storage (e : ExMem) (s : Storage) :
    (e.finish s).2 =
      if e.ctrl.memWrite then
        s.write e.result (Lanes.storeData e.inst.funct3.toNat e.result e.storeData)
          (Lanes.byteEnable e.inst.funct3.toNat e.result)
      else s := by
  unfold finish request?
  cases e.ctrl.memWrite with
  | true => simp [Memory.perform]
  | false => cases e.ctrl.memRead <;> simp [Memory.perform, MemoryRequest.read]

end ExMem

namespace IdEx

/-- What the integer unit computes: a value, or the address of an access. -/
def sum (e : IdEx) : Word :=
  e.ctrl.aluOp.eval (if e.ctrl.auipc then e.pc else e.rv1) (if e.ctrl.aluSrc then e.imm else e.rv2)

theorem integerResult_result (e : IdEx) :
    e.integerResult.result = if e.ctrl.jump || e.ctrl.jalr then e.pc + 4 else e.sum := rfl

/-- Jumps leave their link address, but they make no access. -/
theorem result_of_access {e : IdEx} (decoded : e.ctrl = Control.decode e.inst)
    (access : e.ctrl.memRead = true ∨ e.ctrl.memWrite = true) :
    e.integerResult.result = e.sum := by
  have straight : e.ctrl.jump = false ∧ e.ctrl.jalr = false := by
    rw [decoded] at access ⊢
    rcases access with load | store
    · exact (Control.decode_memRead load).2
    · exact Control.decode_memWrite store
  rw [integerResult_result, straight.1, straight.2]
  rfl

/-- The value of an integer instruction with its access done. -/
theorem finish_integerResult_value {e : IdEx} (decoded : e.ctrl = Control.decode e.inst)
    (s : Storage) :
    (e.integerResult.finish s).1.value =
      if e.ctrl.jump || e.ctrl.jalr then e.pc + 4
      else if e.ctrl.memRead then Lanes.loadData e.inst.funct3.toNat e.sum (s.read e.sum)
      else e.sum := by
  have single (load : e.ctrl.memRead = true) :
      e.ctrl.memWrite = false ∧ e.ctrl.jump = false ∧ e.ctrl.jalr = false := by
    rw [decoded] at load ⊢
    exact Control.decode_memRead load
  rw [ExMem.finish_value _ _ fun load => (single load).1]
  cases load : e.ctrl.memRead with
  | true =>
    obtain ⟨-, jump, jalr⟩ := single load
    rw [result_of_access decoded (.inl load), jump, jalr]
    simp [integerResult, load]
  | false =>
    rw [integerResult_result]
    simp [integerResult, load]

/-- The storage after an integer instruction. -/
theorem finish_integerResult_storage {e : IdEx} (decoded : e.ctrl = Control.decode e.inst)
    (s : Storage) :
    (e.integerResult.finish s).2 =
      if e.ctrl.memWrite then
        s.write e.sum (Lanes.storeData e.inst.funct3.toNat e.sum e.rv2)
          (Lanes.byteEnable e.inst.funct3.toNat e.sum)
      else s := by
  rw [ExMem.finish_storage]
  cases store : e.ctrl.memWrite with
  | true =>
    rw [result_of_access decoded (.inr store)]
    simp [integerResult, store]
  | false => simp [integerResult, store]

end IdEx

namespace Machine

/-! ## Fetch and decode -/

/-- The word that is executed next. -/
def fetched (m : Machine) : Instruction :=
  m.code.read m.pc

/-- The next instruction as fetch hands it on. -/
def fetchedEntry (m : Machine) : IfId :=
  { pc := m.pc, inst := m.fetched }

/-- The entry that decode makes of the next instruction. -/
def issued (m : Machine) : IdEx :=
  m.fetchedEntry.entry m.regs.read

theorem issued_ctrl (m : Machine) : m.issued.ctrl = Control.decode m.fetched := rfl

/-- Where execution goes on after the next instruction. -/
def target (m : Machine) : Word :=
  m.issued.target

theorem execute_of_unrecognised {m : Machine} (empty : m.fetched.isUnrecognised = true)
    (settings : PipelineSettings) :
    m.execute settings = .skipped { m with pc := m.pc + 4 } :=
  if_pos empty

theorem execute_of_slot {m : Machine} {slot : Slot} (owned : m.fetched.slot? = some slot)
    (settings : PipelineSettings) :
    m.execute settings = m.executeOffload settings slot m.issued.request := by
  have recognised : m.fetched.isUnrecognised = false := by
    simp [Instruction.isUnrecognised, owned]
  unfold execute
  simp only [fetched] at *
  rw [if_neg (by simp [recognised]), owned]
  rfl

theorem execute_of_integer {m : Machine} (recognised : m.fetched.isUnrecognised = false)
    (integer : m.fetched.slot? = none) (settings : PipelineSettings) :
    m.execute settings = m.executeInteger m.fetched m.issued.rv1 m.issued.rv2 := by
  unfold execute
  simp only [fetched] at *
  rw [if_neg (by simp [recognised]), integer]
  rfl

/-! ## Execute, memory and writeback -/

/-- The machine after its next instruction is committed, of which execute left the entry `x` and
the control and status registers `csrs`. -/
def after (m : Machine) (x : ExMem) (csrs : SystemUnit) : Machine :=
  let done := x.finish m.data
  { m with
    pc := m.target, regs := m.regs.commit (some done.1), data := done.2, csrs := csrs.retired }

/-- An entry commits what the machine commits if it writes the same value. -/
theorem finish_eq {m : Machine} {x : ExMem} (csrs : SystemUnit) {value : Option Word}
    (pc : x.pc = m.pc) (inst : x.inst = m.fetched) (rd : x.rd = m.fetched.rd.toNat)
    (written :
      (if x.writes then some (x.finish m.data).1.value else none) =
        value.filter fun _ => x.rd != 0) :
    { m with data := (x.finish m.data).2, csrs }.finish m.fetched value m.target =
      .committed (x.finish m.data).1.commit (m.after x csrs) := by
  unfold finish after MemWb.commit RegisterFile.commit
  simp only [ExMem.finish_pc, ExMem.finish_inst, ExMem.finish_rd, ExMem.finish_writes]
  simp only [← rd, ← written, pc, inst]
  cases x.writes <;> rfl

/-- An integer instruction commits what is left of its entry after execute and its access. -/
theorem executeInteger_eq (m : Machine) :
    m.executeInteger m.fetched m.issued.rv1 m.issued.rv2 =
      .committed (m.issued.integerResult.finish m.data).1.commit
        (m.after m.issued.integerResult m.csrs) := by
  have written (value : Word) :
      (if m.issued.integerResult.writes then some value else none) =
        (if m.issued.ctrl.regWrite then some value else none).filter
          fun _ => m.issued.integerResult.rd != 0 := by
    have writes :
        m.issued.integerResult.writes =
          (m.issued.ctrl.regWrite && m.issued.integerResult.rd != 0) := rfl
    rw [writes]
    cases m.issued.ctrl.regWrite <;> cases m.issued.integerResult.rd != 0 <;> rfl
  rw [← finish_eq m.csrs rfl rfl rfl (written _), IdEx.finish_integerResult_value rfl,
    IdEx.finish_integerResult_storage rfl]
  rfl

/-- So does an instruction of a coprocessor that raises no exception. -/
theorem executeOffload_eq {m : Machine} {slot : Slot} (owned : m.fetched.slot? = some slot)
    (settings : PipelineSettings) (quiet : (m.offload slot m.issued.request).1.exception = false) :
    let x := m.issued.offloadResult slot (m.offload slot m.issued.request).1.data
    m.executeOffload settings slot m.issued.request =
      .committed (x.finish m.data).1.commit (m.after x (m.offload slot m.issued.request).2) := by
  intro x
  obtain ⟨load, store, branch, jump, jalr⟩ := Control.decode_of_slot owned
  have storage : (x.finish m.data).2 = m.data := by
    rw [ExMem.finish_storage]
    exact if_neg (by simp [x, IdEx.offloadResult, IdEx.integerResult, issued_ctrl, store])
  have value : (x.finish m.data).1.value = (m.offload slot m.issued.request).1.data := by
    rw [ExMem.finish_value _ _ fun _ => store]
    exact if_neg (by simp [x, IdEx.offloadResult, IdEx.integerResult, issued_ctrl, load])
  have target : m.target = m.pc + 4 := by
    unfold Machine.target IdEx.target IdEx.select PcSource.ofControl
    rw [issued_ctrl, branch, jump, jalr]
    rfl
  have written :
      (if x.writes then some (x.finish m.data).1.value else none) =
        (some (m.offload slot m.issued.request).1.data).filter fun _ => x.rd != 0 := by
    have writes : x.writes = (x.rd != 0) := rfl
    rw [writes, value]
    cases x.rd != 0 <;> rfl
  rw [← finish_eq (m.offload slot m.issued.request).2 rfl rfl rfl written, storage, target]
  exact if_neg (by simp [quiet])

theorem executeOffload_of_exception {m : Machine} {slot : Slot} (settings : PipelineSettings)
    (raised : (m.offload slot m.issued.request).1.exception = true) :
    m.executeOffload settings slot m.issued.request =
      m.takeTrap { cause := .coprocessorException slot m.fetched, pc := m.pc }
        settings.trapVector :=
  if_pos raised

end Machine

end FiveStage
