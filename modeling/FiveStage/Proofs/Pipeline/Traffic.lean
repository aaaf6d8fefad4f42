import FiveStage.Proofs.Pipeline.ClockEdge
import FiveStage.Proofs.Pipeline.Operands

/-!
# What a cycle does on its ports

A cycle makes at most one access on each memory port and offers the coprocessors at most one
operation. Here stands, once for each port, what it does there and what becomes of the latch that
asks: it is kept as long as its request is not answered. Ports and coprocessors may be any, and so
may be the state.
-/

namespace FiveStage

variable {ι δ σ : Type}

/-! ## The data port -/

/-- What the cycle of `p` with the answer `t`, in which the memory stage hands on `moved`, does on
the data port. -/
inductive DataTurn [MemoryPort δ] (p : Pipeline ι δ σ) (t : Tick ι δ σ)
    (moved : Option MemWb) : Prop where
  | interrupted (interrupt : t.report.interlock.flushes.interrupt = true)
      (port : t.next.dmem = p.dmem) (moved : moved = none)
      (fate : t.report.interlock.fate .memory = .discard)
  /-- The environment holds all stages. -/
  | held (port : t.next.dmem = p.dmem)
      (kept : t.next.core.latches.exMem = p.core.latches.exMem) (moved : moved = none)
      (fate : t.report.interlock.fate .memory = .hold)
  | empty (entry : p.core.latches.exMem = none) (port : t.next.dmem = p.dmem)
      (moved : moved = none) (fate : t.report.interlock.fate .memory = .advance)
  /-- The instruction in the memory stage has no access to make. -/
  | passed {x : ExMem} (entry : p.core.latches.exMem = some x) (pass : x.request? = none)
      (port : t.next.dmem = p.dmem) (moved : moved = some (x.complete x.result))
      (fate : t.report.interlock.fate .memory = .advance)
  /-- Its access is presented and not answered. -/
  | waits {x : ExMem} {request : MemoryRequest} (entry : p.core.latches.exMem = some x)
      (access : x.request? = some request)
      (unanswered : (MemoryPort.access p.dmem request).1.ready = false)
      (port : t.next.dmem = (MemoryPort.access p.dmem request).2)
      (free : t.report.interlock.blocks .memory = false)
      (kept : t.next.core.latches.exMem = some x) (moved : moved = none)
      (fate : t.report.interlock.fate .memory = .hold)
  /-- Its access is presented and answered, and it moves on. -/
  | answered {x : ExMem} {request : MemoryRequest} (entry : p.core.latches.exMem = some x)
      (access : x.request? = some request)
      (ready : (MemoryPort.access p.dmem request).1.ready = true)
      (port : t.next.dmem = (MemoryPort.access p.dmem request).2)
      (free : t.report.interlock.blocks .memory = false)
      (entered : t.next.core.latches.memWb = moved)
      (moved : moved = some (x.accessed (MemoryPort.access p.dmem request).1.data))
      (fate : t.report.interlock.fate .memory = .advance)

/-- A cycle in which the memory stage does not wait. -/
theorem DataTurn.of_quiet [MemoryPort δ] {p : Pipeline ι δ σ} {t : Tick ι δ σ}
    (quiet : (p.core.memoryWork p.dmem).1.apply {} = {})
    (port : t.next.dmem = (p.core.memoryWork p.dmem).2)
    (free : t.report.interlock.blocks .memory = false)
    (fate : t.report.interlock.fate .memory = .advance)
    (entered : t.next.core.latches.memWb = (p.core.memoryWork p.dmem).1.latched?) :
    DataTurn p t (p.core.memoryWork p.dmem).1.latched? := by
  cases entry : p.core.latches.exMem with
  | none =>
    rw [Core.memoryWork_of_none entry] at port ⊢
    exact .empty entry port rfl fate
  | some x =>
    cases access : x.request? with
    | none =>
      rw [Core.memoryWork_of_pass entry access] at port ⊢
      exact .passed entry access port rfl fate
    | some request =>
      rw [Core.memoryWork_of_request entry access] at quiet port entered ⊢
      cases ready : (MemoryPort.access p.dmem request).1.ready with
      | true =>
        simp only [ready] at entered ⊢
        exact .answered entry access ready port free entered rfl fate
      | false =>
        simp only [ready] at quiet
        cases congrArg Interlock.stallPoint quiet

/-- A cycle in which the memory stage waits. -/
theorem DataTurn.of_waiting [MemoryPort δ] {p : Pipeline ι δ σ}
    {t : Tick ι δ σ} {pc address : Word} (wait : (p.core.memoryWork p.dmem).1 = .waiting pc address)
    (port : t.next.dmem = (p.core.memoryWork p.dmem).2)
    (free : t.report.interlock.blocks .memory = false)
    (fate : t.report.interlock.fate .memory = .hold)
    (kept : t.next.core.latches.exMem = p.core.latches.exMem) :
    DataTurn p t (p.core.memoryWork p.dmem).1.latched? := by
  cases entry : p.core.latches.exMem with
  | none =>
    rw [Core.memoryWork_of_none entry] at wait
    cases wait
  | some x =>
    cases access : x.request? with
    | none =>
      rw [Core.memoryWork_of_pass entry access] at wait
      cases wait
    | some request =>
      rw [Core.memoryWork_of_request entry access] at wait port ⊢
      cases ready : (MemoryPort.access p.dmem request).1.ready with
      | true =>
        simp only [ready] at wait
        cases wait
      | false =>
        simp only [ready]
        exact .waits entry access ready port free (kept.trans entry) rfl fate

/-! ## The instruction port -/

/-- What the cycle of `p` with the answer `t` does on the instruction port. -/
inductive FetchTurn [MemoryPort ι] (p : Pipeline ι δ σ) (t : Tick ι δ σ) : Prop where
  | redirected (flush : t.report.interlock.flushes.isEmpty = false) (port : t.next.imem = p.imem)
  /-- An older stage stalls. -/
  | held (port : t.next.imem = p.imem) (kept : t.next.core.pc = p.core.pc)
  | waits (unanswered : (MemoryPort.access p.imem (.read p.core.pc)).1.ready = false)
      (port : t.next.imem = (MemoryPort.access p.imem (.read p.core.pc)).2)
      (kept : t.next.core.pc = p.core.pc)
  | answered (ready : (MemoryPort.access p.imem (.read p.core.pc)).1.ready = true)
      (port : t.next.imem = (MemoryPort.access p.imem (.read p.core.pc)).2)

/-! ## The coprocessors -/

/-- The bank after it is told what is reported of a cycle. -/
def Report.notify [Coprocessor σ] (r : Report) (bank : Bank σ) : Bank σ :=
  let bank := if r.retired.isSome then bank.retired else bank
  match r.trap with
  | some trap => bank.trapTaken trap
  | none => bank

/-- What the cycle of `p` with the answer `t` offers the bank. -/
inductive UnitTurn [Coprocessor σ] (p : Pipeline ι δ σ) (t : Tick ι δ σ) : Prop where
  /-- Nothing is offered. An instruction of a coprocessor is kept, unless the bank is told of a
  trap, and held, unless there is an interrupt. -/
  | silent (bank : t.next.bank = t.report.notify (p.bank.cycle none none).2)
      (kept : t.report.trap = none → ∀ e ∈ p.core.latches.idEx, e.inst.slot?.isSome = true →
        t.next.core.latches.idEx = some e)
      (held : t.report.interlock.flushes.interrupt = false →
        ∀ e ∈ p.core.latches.idEx, e.inst.slot?.isSome = true →
          t.report.interlock.fate .execute = .hold)
  /-- The instruction in the execute stage is offered to its unit. -/
  | offered {e : IdEx} {slot : Slot} (entry : p.core.latches.idEx = some e)
      (owned : e.inst.slot? = some slot)
      (bank : t.next.bank = t.report.notify (p.bank.cycle (some slot) (some e.request)).2)
      (kept : (p.bank.cycle (some slot) (some e.request)).1.exception = false →
        (p.bank.cycle (some slot) (some e.request)).1.ready = false →
        t.next.core.latches.idEx = some e)
      (waits : (p.bank.cycle (some slot) (some e.request)).1.exception = false →
        (p.bank.cycle (some slot) (some e.request)).1.ready = false →
        t.report.interlock = ({} : Interlock).stall .coprocessorNotReady .execute)
      (leaves : (p.bank.cycle (some slot) (some e.request)).1.exception = true ∨
        (p.bank.cycle (some slot) (some e.request)).1.ready = true →
        t.report.interlock.fate .execute ≠ .hold)

/-- An execute stage that waits asks for a stall. -/
theorem ExecuteOutcome.ne_waiting {x : ExecuteOutcome} (quiet : x.apply {} = {}) :
    x ≠ .waiting := by
  rintro rfl
  cases congrArg Interlock.stallPoint quiet

/-- A cycle in which the execute stage is held. -/
theorem UnitTurn.of_held [Coprocessor σ] {p : Pipeline ι δ σ} {t : Tick ι δ σ}
    (bank : t.next.bank = t.report.notify
      (p.core.dispatcher.cycle (dispatchInputs p.core.latches.idEx true) p.bank).bank)
    (kept : t.next.core.latches.idEx = p.core.latches.idEx)
    (held : t.report.interlock.fate .execute = .hold) : UnitTurn p t := by
  rw [p.core.dispatcher.bank_cycle_held] at bank
  exact .silent bank (fun _ e member _ => kept.trans member) fun _ _ _ _ => held

/-- A cycle in which the execute stage works. -/
theorem UnitTurn.of_work [Coprocessor σ] {p : Pipeline ι δ σ} {t : Tick ι δ σ}
    (bank : t.next.bank = t.report.notify (p.core.executeWork p.bank).2.bank)
    (kept : (p.core.executeWork p.bank).1 = .waiting →
      t.next.core.latches.idEx = p.core.latches.idEx ∧
        t.report.interlock = ({} : Interlock).stall .coprocessorNotReady .execute)
    (leaves : (p.core.executeWork p.bank).1 ≠ .waiting →
      t.report.interlock.fate .execute ≠ .hold) : UnitTurn p t := by
  -- Without an instruction of a coprocessor there is nothing to keep.
  have silent (absent : ∀ e ∈ p.core.latches.idEx, e.inst.slot? = none)
      (bank : t.next.bank = t.report.notify (p.bank.cycle none none).2) : UnitTurn p t := by
    refine .silent bank (fun _ e member slot => ?_) (fun _ e member slot => ?_)
    · simp [absent e member] at slot
    · simp [absent e member] at slot
  cases entry : p.core.latches.idEx with
  | none =>
    rw [(Core.executeWork_of_none entry p.bank).2] at bank
    exact silent (by simp [entry]) bank
  | some e =>
    cases owned : e.inst.slot? with
    | none =>
      rw [(Core.executeWork_of_integer entry owned p.bank).2] at bank
      exact silent (by simp [entry, owned]) bank
    | some slot =>
      obtain ⟨outcome, after⟩ := Core.executeWork_of_slot entry owned p.bank
      rw [after] at bank
      have waiting : (p.core.executeWork p.bank).1 = .waiting ↔
          (p.bank.cycle (some slot) (some e.request)).1.exception = false ∧
            (p.bank.cycle (some slot) (some e.request)).1.ready = false := by
        rw [outcome]
        unfold IdEx.answered
        cases (p.bank.cycle (some slot) (some e.request)).1.exception <;>
          cases (p.bank.cycle (some slot) (some e.request)).1.ready <;> simp
      refine .offered entry owned bank (fun calm unready => ?_) (fun calm unready => ?_)
        fun answered => leaves fun waits => ?_
      · exact (kept (waiting.mpr ⟨calm, unready⟩)).1.trans entry
      · exact (kept (waiting.mpr ⟨calm, unready⟩)).2
      · rw [(waiting.mp waits).1, (waiting.mp waits).2] at answered
        exact answered.elim nofun nofun

/-- A cycle in which the execute stage is done with its instruction. -/
theorem UnitTurn.of_done [Coprocessor σ] {p : Pipeline ι δ σ} {t : Tick ι δ σ} {asked : Interlock}
    (bank : t.next.bank = t.report.notify (p.core.executeWork p.bank).2.bank)
    (done : (p.core.executeWork p.bank).1 ≠ .waiting) (interlock : t.report.interlock = asked)
    (leaves : asked.fate .execute ≠ .hold) : UnitTurn p t :=
  .of_work bank (absurd · done) fun _ => interlock ▸ leaves

/-! ## Every cycle -/

namespace Pipeline

variable [MemoryPort ι] [MemoryPort δ] [Coprocessor σ]

theorem tick_dataTurn (p : Pipeline ι δ σ) (inputs : Inputs) :
    DataTurn p (p.tick inputs) (p.moved inputs) := by
  have flow := evaluate_flow p.core p.imem p.dmem p.bank inputs
  unfold moved
  change DataTurn p ((p.core.evaluate p.imem p.dmem p.bank inputs).edge p.core) _
  generalize p.core.evaluate p.imem p.dmem p.bank inputs = c at flow ⊢
  cases flow with
  | interrupted stall =>
    exact .interrupted (by cases stall <;> rfl) rfl rfl (by cases stall <;> rfl)
  | held =>
    have leaves := p.core.leavesAt_held p.imem p.dmem p.bank
    exact .held rfl (congrArg Latches.exMem leaves.latches_eq) rfl rfl
  | dataWaiting wait =>
    have interlock := p.core.interlock_dataWaiting wait p.imem p.bank
    have leaves := p.core.leavesAt_dataWaiting wait p.imem p.bank
    have kept := congrArg Latches.exMem leaves.latches_eq
    exact .of_waiting wait rfl (congrArg (·.blocks .memory) interlock)
      (congrArg (·.fate .memory) interlock) kept
  | coprocessorWaiting memory wait =>
    have interlock := p.core.interlock_coprocessorWaiting memory wait p.imem
    have leaves := p.core.leavesAt_coprocessorWaiting memory wait p.imem
    exact .of_quiet memory rfl (congrArg (·.blocks .memory) interlock)
      (congrArg (·.fate .memory) interlock) (congrArg Latches.memWb leaves.latches_eq)
  | trapped memory raised =>
    have interlock := p.core.interlock_trapped memory raised p.imem
    have leaves := p.core.leavesAt_trapped memory raised p.imem
    exact .of_quiet memory rfl (congrArg (·.blocks .memory) interlock)
      (congrArg (·.fate .memory) interlock) (congrArg Latches.memWb leaves.latches_eq)
  | operandWaiting memory execute wait =>
    have interlock := p.core.interlock_operandWaiting memory execute wait p.imem
    have leaves := p.core.leavesAt_operandWaiting memory execute wait p.imem
    exact .of_quiet memory rfl (congrArg (·.blocks .memory) interlock)
      (congrArg (·.fate .memory) interlock) (congrArg Latches.memWb leaves.latches_eq)
  | redirected memory execute leave =>
    have interlock := p.core.interlock_redirected memory execute leave p.imem
    have leaves := p.core.leavesAt_redirected memory execute leave p.imem
    exact .of_quiet memory rfl (congrArg (·.blocks .memory) interlock)
      (congrArg (·.fate .memory) interlock) (congrArg Latches.memWb leaves.latches_eq)
  | straight memory execute decode =>
    have interlock := p.core.interlock_straight memory execute decode (p.core.fetchWork p.imem)
    have leaves := p.core.leavesAt_straight memory execute decode (p.core.fetchWork p.imem)
    refine .of_quiet memory rfl ((congrArg (·.blocks .memory) interlock).trans ?_)
      ((congrArg (·.fate .memory) interlock).trans ?_) (congrArg Latches.memWb leaves.latches_eq)
    · cases (p.core.fetchWork p.imem).1 <;> rfl
    · cases (p.core.fetchWork p.imem).1 <;> rfl

theorem tick_fetchTurn (p : Pipeline ι δ σ) (inputs : Inputs) :
    FetchTurn p (p.tick inputs) := by
  have flow := evaluate_flow p.core p.imem p.dmem p.bank inputs
  change FetchTurn p ((p.core.evaluate p.imem p.dmem p.bank inputs).edge p.core)
  generalize p.core.evaluate p.imem p.dmem p.bank inputs = c at flow ⊢
  cases flow with
  | interrupted stall => exact .redirected (by cases stall <;> rfl) rfl
  | held => exact .held rfl (p.core.leavesAt_held p.imem p.dmem p.bank).pc_eq
  | dataWaiting wait => exact .held rfl (p.core.leavesAt_dataWaiting wait p.imem p.bank).pc_eq
  | coprocessorWaiting memory wait =>
    exact .held rfl (p.core.leavesAt_coprocessorWaiting memory wait p.imem).pc_eq
  | trapped memory raised =>
    have interlock := p.core.interlock_trapped memory raised p.imem
    exact .redirected (congrArg (·.flushes.isEmpty) interlock) rfl
  | operandWaiting memory execute wait =>
    exact .held rfl (p.core.leavesAt_operandWaiting memory execute wait p.imem).pc_eq
  | redirected memory execute leave =>
    have interlock := p.core.interlock_redirected memory execute leave p.imem
    exact .redirected (congrArg (·.flushes.isEmpty) interlock) rfl
  | straight memory execute decode =>
    have leaves := p.core.leavesAt_straight memory execute decode (p.core.fetchWork p.imem)
    cases answer : (MemoryPort.access p.imem (.read p.core.pc)).1 with
    | mk ready word =>
      have outcome := p.core.fetchWork_of_answer answer
      cases ready with
      | true => exact .answered (congrArg (·.ready) answer) rfl
      | false =>
        refine .waits (congrArg (·.ready) answer) rfl (leaves.pc_eq.trans ?_)
        rw [outcome]
        rfl

theorem tick_unitTurn (p : Pipeline ι δ σ) (inputs : Inputs) :
    UnitTurn p (p.tick inputs) := by
  have flow := evaluate_flow p.core p.imem p.dmem p.bank inputs
  change UnitTurn p ((p.core.evaluate p.imem p.dmem p.bank inputs).edge p.core)
  generalize p.core.evaluate p.imem p.dmem p.bank inputs = c at flow ⊢
  cases flow with
  | interrupted stall => exact .silent rfl nofun (by cases stall <;> exact nofun)
  | held =>
    have leaves := p.core.leavesAt_held p.imem p.dmem p.bank
    have kept := congrArg Latches.idEx leaves.latches_eq
    exact .of_held rfl kept rfl
  | dataWaiting wait =>
    have interlock := p.core.interlock_dataWaiting wait p.imem p.bank
    have leaves := p.core.leavesAt_dataWaiting wait p.imem p.bank
    have kept := congrArg Latches.idEx leaves.latches_eq
    exact .of_held rfl kept (congrArg (·.fate .execute) interlock)
  | coprocessorWaiting memory wait =>
    have interlock := p.core.interlock_coprocessorWaiting memory wait p.imem
    have leaves := p.core.leavesAt_coprocessorWaiting memory wait p.imem
    have kept := congrArg Latches.idEx leaves.latches_eq
    exact .of_work rfl (fun _ => ⟨kept, interlock⟩) fun works => absurd wait works
  | trapped memory raised =>
    have interlock := p.core.interlock_trapped memory raised p.imem
    exact .of_done rfl (by rw [raised]; exact nofun) interlock nofun
  | operandWaiting memory execute wait =>
    have interlock := p.core.interlock_operandWaiting memory execute wait p.imem
    exact .of_done rfl (ExecuteOutcome.ne_waiting execute) interlock nofun
  | redirected memory execute leave =>
    have interlock := p.core.interlock_redirected memory execute leave p.imem
    exact .of_done rfl (ExecuteOutcome.ne_waiting execute) interlock nofun
  | straight memory execute decode =>
    have interlock := p.core.interlock_straight memory execute decode (p.core.fetchWork p.imem)
    refine .of_done rfl (ExecuteOutcome.ne_waiting execute) interlock ?_
    cases (p.core.fetchWork p.imem).1 <;> exact nofun

end Pipeline

end FiveStage
