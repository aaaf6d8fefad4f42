import FiveStage.Proofs.Coprocessor.Departures
import FiveStage.Proofs.Memory.Accesses
import FiveStage.Proofs.Statistics.Record

/-!
# The cycles in which coprocessors are asked

A cycle in which a coprocessor is offered an operation ends in one of three ways: the instruction
waits in the execute stage, takes a trap there, or goes on to the memory stage. From there it
retires, unless an interrupt discards it on the way. So the offers of a run are its waits, its
exceptions, and the coprocessor instructions that have retired, are between execute and writeback,
or were discarded there (`offers_balance`). What carries the induction is that the entries behind
execute are marked with the coprocessor that owns their instruction (`Marked`), since the category
of a retired instruction is read off that mark.
-/

namespace FiveStage

/-- How many of the instructions are for a coprocessor. -/
def offloads (insts : List Instruction) : Nat :=
  insts.countP (·.slot?.isSome)

theorem offloads_append (insts more : List Instruction) :
    offloads (insts ++ more) = offloads insts + offloads more :=
  List.countP_append

/-- The coprocessor instructions between execute and writeback. -/
def Latches.offloads (l : Latches) : Nat :=
  FiveStage.offloads (l.exMem.toList.map (·.inst)) +
    FiveStage.offloads (l.memWb.toList.map (·.inst))

/-- What an interrupt discarded. -/
def Departure.discarded? : Departure → Option ExMem
  | done _ => none
  | discarded x => some x

/-! ## Marks -/

/-- Only the instructions of the system unit are system instructions. -/
theorem Control.decode_system (inst : Instruction) :
    (decode inst).system = (inst.slot? == some .cp0) := by
  unfold decode Instruction.slot?
  cases inst.major? with
  | none => rfl
  | some major => cases major <;> rfl

/-- The entry has the control lines of its instruction and the coprocessor that owns it. -/
structure MemWb.Marked (w : MemWb) : Prop where
  ctrl : w.ctrl = Control.decode w.inst
  coprocessor : w.coprocessor = w.inst.slot?

/-- The entry has the control lines of its instruction and the coprocessor that owns it. -/
structure ExMem.Marked (x : ExMem) : Prop where
  ctrl : x.ctrl = Control.decode x.inst
  coprocessor : x.coprocessor = x.inst.slot?

/-- The categories of the coprocessors are those of their instructions. -/
theorem MemWb.Marked.category_iff {w : MemWb} (marked : w.Marked) :
    (w.category = .system ∨ w.category = .coprocessor) ↔ w.inst.slot?.isSome = true := by
  unfold MemWb.category
  rw [marked.coprocessor, marked.ctrl, Control.decode_system]
  cases w.inst.slot? with
  | none =>
    generalize Control.decode w.inst = ctrl
    cases ctrl.memRead <;> cases ctrl.memWrite <;> cases ctrl.isTransfer <;> simp
  | some slot => cases slot <;> simp

/-- What execute makes of an instruction that decode issued is marked. -/
theorem IdEx.Becomes.marked {e : IdEx} {x : ExMem} (becomes : e.Becomes x)
    (decoded : e.ctrl = Control.decode e.inst) : x.Marked := by
  refine ⟨?_, ?_⟩
  · rw [becomes.ctrl, becomes.inst, decoded]
  · cases becomes with
    | integer integer => exact integer.symm
    | offloaded owned => exact owned.symm

/-- Decode issues an instruction with its control lines. -/
theorem IdEx.Informed.ctrl {e : IdEx} {regs : RegisterFile} {ex : Producer}
    (h : e.Informed regs ex) : e.ctrl = Control.decode e.inst := by
  obtain ⟨⟨f, rfl⟩, -⟩ := h
  rfl

/-- The entries behind execute are marked. -/
structure Pipeline.Marked {ι δ σ : Type} (p : Pipeline ι δ σ) : Prop where
  exMem : ∀ x ∈ p.core.latches.exMem, x.Marked
  memWb : ∀ w ∈ p.core.latches.memWb, w.Marked

namespace Pipeline.Marked

variable {ι δ σ : Type} [MemoryPort ι] [MemoryPort δ] [Coprocessor σ] {p : Pipeline ι δ σ}

/-- The memory stage keeps the mark of the entry that it hands on. -/
theorem moved (h : p.Marked) (inputs : Inputs) : ∀ w ∈ p.moved inputs, w.Marked := by
  intro w member
  cases p.tick_dataTurn inputs with
  | interrupted _ _ moved => cases moved.symm.trans member
  | held _ _ moved => cases moved.symm.trans member
  | empty _ _ moved => cases moved.symm.trans member
  | passed entry _ _ moved =>
    cases moved.symm.trans member
    exact ⟨(h.exMem _ entry).ctrl, (h.exMem _ entry).coprocessor⟩
  | waits _ _ _ _ _ _ moved => cases moved.symm.trans member
  | answered entry _ _ _ _ _ moved =>
    cases moved.symm.trans member
    exact ⟨(h.exMem _ entry).ctrl, (h.exMem _ entry).coprocessor⟩

/-- What retires in a cycle was in the last latch, and what is there afterwards as well, or the
memory stage has handed it on. -/
theorem leaving (h : p.Marked) (inputs : Inputs) :
    ∀ w ∈ (p.tick inputs).report.retired.toList ++
      (p.tick inputs).next.core.latches.memWb.toList, w.Marked := by
  intro w member
  rw [p.retired_append_memWb] at member
  rcases List.mem_append.mp member with old | fresh
  · exact h.memWb w (Option.mem_toList.mp old)
  · exact h.moved inputs w (Option.mem_toList.mp fresh)

theorem tick (h : p.Marked) (informed : p.Informed) (inputs : Inputs) :
    (p.tick inputs).next.Marked := by
  refine ⟨fun x entry => ?_, fun w entry => ?_⟩
  · rcases p.tick_exMem inputs entry with old | ⟨e, issued, becomes⟩
    · exact h.exMem x old
    · exact becomes.marked (informed.idEx e issued).ctrl
  · exact h.leaving inputs w (List.mem_append_right _ (Option.mem_toList.mpr entry))

end Pipeline.Marked

/-! ## The balance of a cycle -/

namespace Dispatcher

variable {σ : Type} [Coprocessor σ]

theorem issued_cycle_of_idle (d : Dispatcher) {i : DispatchInputs} (idle : i.detection = {})
    (bank : Bank σ) : (d.cycle i bank).outputs.issued = false := by
  unfold DispatchOutputs.issued
  rw [(d.cycle_of_idle idle bank).1, Bool.false_and]

/-- An instruction that is held is not offered. -/
theorem issued_cycle_held (d : Dispatcher) (entry : Option IdEx) (bank : Bank σ) :
    (d.cycle (dispatchInputs entry true) bank).outputs.issued = false :=
  d.issued_cycle_of_idle (detection_held entry) bank

end Dispatcher

namespace Core

variable {δ σ : Type} {p : Core}

/-- A memory stage that does not wait hands on the instruction that it held. -/
theorem offloads_memoryWork [MemoryPort δ] {dmem : δ}
    (quiet : (p.memoryWork dmem).1.apply {} = {}) :
    (p.memoryWork dmem).1.latched?.toList.map (·.inst) =
      p.latches.exMem.toList.map (·.inst) := by
  cases entry : p.latches.exMem with
  | none =>
    rw [memoryWork_of_none entry]
    rfl
  | some x =>
    obtain ⟨w, done, becomes⟩ := memoryWork_done entry quiet
    rw [done]
    exact congrArg ([·]) becomes.inst

variable [Coprocessor σ]

/-- A coprocessor is offered the instruction in the execute stage, if that is for one. -/
theorem issued_executeWork (p : Core) (bank : Bank σ) :
    (p.executeWork bank).2.outputs.issued.toNat =
      offloads (p.latches.idEx.toList.map (·.inst)) := by
  unfold executeWork
  cases entry : p.latches.idEx with
  | none =>
    change (p.dispatcher.cycle {} bank).outputs.issued.toNat = 0
    rw [p.dispatcher.issued_cycle_of_idle rfl bank]
    rfl
  | some e =>
    change (p.dispatcher.cycle (dispatchInputs (some e) false) bank).outputs.issued.toNat =
      offloads [e.inst]
    cases owned : e.inst.slot? with
    | none =>
      rw [IdEx.dispatchInputs_of_integer owned, p.dispatcher.issued_cycle_of_idle rfl bank]
      simp [offloads, owned]
    | some slot =>
      obtain ⟨-, detection, -⟩ := IdEx.dispatchInputs_of_slot owned
      have issued : (p.dispatcher.cycle (dispatchInputs (some e) false) bank).outputs.issued =
          true := by
        unfold Dispatcher.cycle
        rw [detection]
        rfl
      rw [issued]
      simp [offloads, owned]

/-- An execute stage that asks for nothing hands on the instruction that it held. -/
theorem offloads_executeWork {bank : Bank σ} (quiet : (p.executeWork bank).1.apply {} = {}) :
    (p.executeWork bank).1.latched?.toList.map (·.inst) =
      p.latches.idEx.toList.map (·.inst) := by
  cases entry : p.latches.idEx with
  | none =>
    rw [(executeWork_of_none entry bank).1]
    rfl
  | some e =>
    obtain ⟨x, done, becomes⟩ := executeWork_of_quiet entry quiet
    rw [done]
    exact congrArg ([·]) becomes.inst

/-- Execute waits with an instruction of a coprocessor only, and takes a trap with such a one. -/
theorem offloads_of_stopped {bank : Bank σ} (stopped : (p.executeWork bank).1 ≠ .idle)
    (nothing : (p.executeWork bank).1.latched? = none) :
    offloads (p.latches.idEx.toList.map (·.inst)) = 1 := by
  cases entry : p.latches.idEx with
  | none => exact absurd (executeWork_of_none entry bank).1 stopped
  | some e =>
    cases owned : e.inst.slot? with
    | none =>
      rw [(executeWork_of_integer entry owned bank).1] at nothing
      cases nothing
    | some slot => simp [offloads, owned]

end Core

namespace Pipeline

variable {ι δ : Type} [MemoryPort ι] [MemoryPort δ]

/-- What an interrupt discards in a cycle is what was between execute and the memory stage. -/
theorem discarded?_departure (p : Pipeline ι δ ReferenceUnit) (inputs : Inputs) :
    (p.departure inputs).toList.filterMap (·.discarded?) =
      if inputs.interrupt then p.core.latches.exMem.toList else [] := by
  unfold departure
  cases inputs.interrupt with
  | true => cases p.core.latches.exMem <;> rfl
  | false => cases p.moved inputs <;> rfl

/-- A cycle in which a coprocessor is offered an operation ends in a wait, in an exception, or
with one more instruction behind execute. -/
theorem offers_balance_tick (p : Pipeline ι δ ReferenceUnit) (inputs : Inputs) :
    (p.tick inputs).report.dispatch.issued.toNat +
        offloads (p.core.latches.exMem.toList.map (·.inst)) =
      (p.tick inputs).report.interlock.stalls.coprocessorNotReady.toNat +
        (p.tick inputs).report.interlock.flushes.exception.toNat +
        (offloads ((p.tick inputs).next.core.latches.exMem.toList.map (·.inst)) +
          offloads ((p.moved inputs).toList.map (·.inst)) +
          offloads (((p.departure inputs).toList.filterMap (·.discarded?)).map (·.inst))) := by
  have flow := evaluate_flow p.core p.imem p.dmem p.bank inputs
  rw [p.discarded?_departure]
  unfold moved
  change (p.core.evaluate p.imem p.dmem p.bank inputs).dispatch.outputs.issued.toNat + _ =
    (p.core.evaluate p.imem p.dmem p.bank inputs).interlock.stalls.coprocessorNotReady.toNat +
    (p.core.evaluate p.imem p.dmem p.bank inputs).interlock.flushes.exception.toNat +
    (offloads ((p.core.latches.next (p.core.evaluate p.imem p.dmem p.bank inputs).interlock
      (p.core.evaluate p.imem p.dmem p.bank inputs).incoming).exMem.toList.map (·.inst)) + _ + _)
  generalize p.core.evaluate p.imem p.dmem p.bank inputs = c at flow ⊢
  have issued := p.core.issued_executeWork p.bank
  -- The execute stage is done with its instruction, and no younger stage matters.
  have worked {asked : Interlock} (memory : (p.core.memoryWork p.dmem).1.apply {} = {})
      (execute : (p.core.executeWork p.bank).1.apply {} = {})
      (ready : asked.stalls.coprocessorNotReady = false)
      (calm : asked.flushes.exception = false) :
      (p.core.executeWork p.bank).2.outputs.issued.toNat +
          offloads (p.core.latches.exMem.toList.map (·.inst)) =
        asked.stalls.coprocessorNotReady.toNat + asked.flushes.exception.toNat +
          (offloads ((p.core.executeWork p.bank).1.latched?.toList.map (·.inst)) +
            offloads ((p.core.memoryWork p.dmem).1.latched?.toList.map (·.inst)) + 0) := by
    rw [issued, ready, calm, Core.offloads_memoryWork memory, Core.offloads_executeWork execute]
    change _ = 0 + 0 + _
    omega
  -- Nothing is offered to a coprocessor, and nothing leaves the memory stage.
  have stays (n : Nat) : 0 + n = 0 + 0 + (n + 0 + 0) := by omega
  cases flow with
  | interrupted stall =>
    rw [(p.core.leavesAt_interrupted p.imem p.dmem p.bank stall).latches_eq,
      p.core.interlock_interrupted]
    change (p.core.dispatcher.cycle {} p.bank).outputs.issued.toNat + _ = _
    rw [p.core.dispatcher.issued_cycle_of_idle rfl p.bank]
    have discards (n : Nat) : 0 + n = 0 + 0 + (0 + 0 + n) := by omega
    cases stall <;> exact discards _
  | held =>
    rw [(p.core.leavesAt_held p.imem p.dmem p.bank).latches_eq]
    change (p.core.dispatcher.cycle (dispatchInputs p.core.latches.idEx true)
      p.bank).outputs.issued.toNat + _ = _
    rw [p.core.dispatcher.issued_cycle_held p.core.latches.idEx p.bank]
    exact stays _
  | dataWaiting wait =>
    rw [(p.core.leavesAt_dataWaiting wait p.imem p.bank).latches_eq,
      p.core.interlock_dataWaiting wait p.imem p.bank]
    change (p.core.dispatcher.cycle (dispatchInputs p.core.latches.idEx true)
      p.bank).outputs.issued.toNat + _ = 0 + 0 +
        (_ + offloads ((p.core.memoryWork p.dmem).1.latched?.toList.map (·.inst)) + 0)
    rw [p.core.dispatcher.issued_cycle_held p.core.latches.idEx p.bank, wait]
    exact stays _
  | coprocessorWaiting memory wait =>
    rw [(p.core.leavesAt_coprocessorWaiting memory wait p.imem).latches_eq,
      p.core.interlock_coprocessorWaiting memory wait p.imem]
    have stopped : offloads (p.core.latches.idEx.toList.map (·.inst)) = 1 :=
      Core.offloads_of_stopped (by rw [wait]; exact nofun) (by rw [wait]; rfl)
    change (p.core.executeWork p.bank).2.outputs.issued.toNat + _ =
      1 + 0 + (0 + offloads ((p.core.memoryWork p.dmem).1.latched?.toList.map (·.inst)) + 0)
    rw [issued, stopped, Core.offloads_memoryWork memory]
    omega
  | @trapped trap target memory raised =>
    rw [(p.core.leavesAt_trapped memory raised p.imem).latches_eq,
      p.core.interlock_trapped memory raised p.imem]
    have stopped : offloads (p.core.latches.idEx.toList.map (·.inst)) = 1 :=
      Core.offloads_of_stopped (by rw [raised]; exact nofun) (by rw [raised]; rfl)
    change (p.core.executeWork p.bank).2.outputs.issued.toNat + _ =
      0 + 1 + (0 + offloads ((p.core.memoryWork p.dmem).1.latched?.toList.map (·.inst)) + 0)
    rw [issued, stopped, Core.offloads_memoryWork memory]
    omega
  | @operandWaiting reason memory execute wait =>
    rw [(p.core.leavesAt_operandWaiting memory execute wait p.imem).latches_eq,
      p.core.interlock_operandWaiting memory execute wait p.imem]
    have cause := DecodeOutcome.cause_of_wait wait
    cases reason with
    | coprocessorNotReady => exact absurd cause (by decide)
    | _ => exact worked memory execute rfl rfl
  | redirected memory execute leave =>
    rw [(p.core.leavesAt_redirected memory execute leave p.imem).latches_eq,
      p.core.interlock_redirected memory execute leave p.imem]
    exact worked memory execute rfl rfl
  | straight memory execute decode =>
    rw [(p.core.leavesAt_straight memory execute decode _).latches_eq,
      p.core.interlock_straight memory execute decode _]
    cases (p.core.fetchWork p.imem).1 <;> exact worked memory execute rfl rfl

/-- The coprocessor instructions that an interrupt discarded along a schedule. -/
def discarded (p : Pipeline ι δ ReferenceUnit) (schedule : Schedule) : List Instruction :=
  ((p.departures schedule).filterMap (·.discarded?)).map (·.inst)

theorem discarded_cons (p : Pipeline ι δ ReferenceUnit) (inputs : Inputs) (rest : Schedule) :
    p.discarded (inputs :: rest) =
      ((p.departure inputs).toList.filterMap (·.discarded?)).map (·.inst) ++
        (p.tick inputs).next.discarded rest := by
  unfold discarded
  rw [p.departures_cons, List.filterMap_append, List.map_append]

/-- What retires in a cycle and what is in the last latch afterwards are together what was there and
what the memory stage has handed on. -/
theorem offloads_retired_memWb (p : Pipeline ι δ ReferenceUnit) (inputs : Inputs) :
    offloads ((p.tick inputs).report.retired.toList.map (·.inst)) +
        offloads ((p.tick inputs).next.core.latches.memWb.toList.map (·.inst)) =
      offloads (p.core.latches.memWb.toList.map (·.inst)) +
        offloads ((p.moved inputs).toList.map (·.inst)) := by
  have same := congrArg (fun ws => offloads (ws.map (·.inst))) (p.retired_append_memWb inputs)
  simpa only [List.map_append, offloads_append] using same

/-- The offers of a run are its waits, its exceptions, and the coprocessor instructions that have
retired, are still on their way, or were discarded on it. -/
theorem offers_balance (p : Pipeline ι δ ReferenceUnit) (schedule : Schedule) :
    (p.reports schedule).countP (·.dispatch.issued) + p.core.latches.offloads =
      (p.reports schedule).countP (·.interlock.stalls.coprocessorNotReady) +
        (p.reports schedule).countP (·.interlock.flushes.exception) +
        (offloads ((p.retired schedule).map (·.inst)) +
          (p.run schedule).core.latches.offloads + offloads (p.discarded schedule)) := by
  induction schedule generalizing p with
  | nil => exact (by omega : ∀ n : Nat, 0 + n = 0 + 0 + (0 + n + 0)) _
  | cons inputs rest ih =>
    have one := p.offers_balance_tick inputs
    have leaving := p.offloads_retired_memWb inputs
    have more := ih (p.tick inputs).next
    rw [p.reports_cons, p.run_cons, p.retired_cons, p.discarded_cons, List.map_append,
      offloads_append, offloads_append]
    simp only [countP_cons_toNat]
    unfold Latches.offloads at more ⊢
    omega

/-- The instructions that are counted for coprocessors are those that have retired. -/
theorem mix_offloads_run {p : Pipeline ι δ ReferenceUnit} (marked : p.Marked)
    (informed : p.Informed) (schedule : Schedule) :
    (p.run schedule).core.stats.mix.offloads =
      p.core.stats.mix.offloads + offloads ((p.retired schedule).map (·.inst)) := by
  induction schedule generalizing p with
  | nil => rfl
  | cons inputs rest ih =>
    have one : (p.tick inputs).next.core.stats.mix.offloads =
        p.core.stats.mix.offloads +
          offloads ((p.tick inputs).report.retired.toList.map (·.inst)) := by
      have leaving := marked.leaving inputs
      change (p.core.stats.record (p.tick inputs).report).mix.offloads = _
      unfold Statistics.record
      cases retired : (p.tick inputs).report.retired with
      | none => rfl
      | some w =>
        have category := (leaving w (by simp [retired])).category_iff
        change (p.core.stats.mix.count w.category).offloads = _ + offloads [w.inst]
        rw [Mix.offloads_count]
        simp [offloads, category]
    rw [p.run_cons, ih (marked.tick informed inputs) (informed.tick inputs), one, p.retired_cons,
      List.map_append, offloads_append, Nat.add_assoc]

end Pipeline

end FiveStage
