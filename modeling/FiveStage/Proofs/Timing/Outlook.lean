import FiveStage.Proofs.Coprocessor.Hidden
import FiveStage.Proofs.Memory.Accesses
import FiveStage.Proofs.Memory.DataLatency

/-!
# Outlooks

What a pipeline will do without further inputs depends on little: on the front end, on the
instruction in the execute stage, and on what the registers, the memories and the coprocessors are
once the memory stage is done. This is the `Outlook` of a state. A cycle in which the memory stage
waits keeps it, and any other cycle moves it on by a `Step`, in which forwarding shows in one place
only: whether decode waits for an operand.
-/

namespace FiveStage

/-! ## The wait of the memory stage -/

namespace Memory

/-- The cycles in which the request must be presented until it is answered. -/
def due (m : Memory) (request : MemoryRequest) : Nat :=
  max 1 (m.latency - m.credit request)

/-- The memory once it has answered the request, which is presented until then. -/
def settle (m : Memory) (request : MemoryRequest) : Memory :=
  { m with
    storage := (perform m.storage request).2, pending := none,
    waited := max m.latency (m.credit request + 1) }

/-- A request that is not answered is due one cycle less, and will have the same effect. -/
theorem access_of_unready {m : Memory} {request : MemoryRequest}
    (unready : (m.access request).1.ready = false) :
    (m.access request).2.due request + 1 = m.due request ∧
      (m.access request).2.settle request = m.settle request := by
  have early : m.credit request + 1 < m.latency := by
    rw [← Bool.not_eq_true, m.ready_access] at unready
    omega
  have credit : (m.access request).2.credit request = m.credit request + 1 := by
    rw [m.credit_access, if_pos ⟨rfl, unready⟩]
  refine ⟨?_, ?_⟩
  · unfold due
    rw [credit, m.latency_access]
    omega
  · unfold settle
    rw [credit, m.access_eq, if_pos early]
    simp only [mk.injEq, true_and]
    omega

theorem access_of_ready {m : Memory} {request : MemoryRequest}
    (ready : (m.access request).1.ready = true) :
    m.due request = 1 ∧ (m.access request).1 = (perform m.storage request).1 ∧
      (m.access request).2 = m.settle request := by
  have late := (m.ready_access request).mp ready
  have done : ¬ m.credit request + 1 < m.latency := by omega
  refine ⟨?_, ?_, ?_⟩
  · unfold due
    omega
  · rw [m.access_eq, if_neg done]
  · unfold settle
    rw [m.access_eq, if_neg done, Nat.max_eq_right late]

end Memory

namespace ExMem

/-- The cycles that the memory stage still needs for the instruction. -/
def due (x : ExMem) (m : Memory) : Nat :=
  match x.request? with
  | none => 1
  | some request => m.due request

/-- The memory once the memory stage is done with the instruction. -/
def settle (x : ExMem) (m : Memory) : Memory :=
  match x.request? with
  | none => m
  | some request => m.settle request

theorem due_pos (x : ExMem) (m : Memory) : 1 ≤ x.due m := by
  unfold due Memory.due
  split <;> omega

end ExMem

/-- The registers, with all older instructions committed, and the data memory. -/
structure Stores where
  regs : RegisterFile
  data : Memory

/-- The stores once the memory stage is done with what is in the latch. -/
def Stores.after (s : Stores) : Option ExMem → Stores
  | none => s
  | some x =>
      { regs := s.regs.commit (some (x.finish s.data.storage).1), data := x.settle s.data }

/-- What an instruction writes is known when execute hands it on, unless it loads. -/
theorem Stores.ahead_after (s : Stores) {outcome : ExecuteOutcome}
    (small : ∀ x ∈ outcome.latched?, x.rd < 32) {r : Nat}
    (known : outcome.producer.produces r = true → outcome.producer.isLoad = false) :
    s.regs.ahead outcome.producer r = (s.after outcome.latched?).regs.read r := by
  cases outcome with
  | done x =>
    exact ((x.becomes_finish s.data.storage).read_commit (small x rfl) known s.regs).symm
  | _ => exact s.regs.ahead_empty r

/-- The memory stage needs more than this cycle, or it is done with the instruction. -/
theorem Core.memoryWork_due {p : Core} {x : ExMem} (entry : p.latches.exMem = some x)
    (m : Memory) :
    ((∃ pc address, (p.memoryWork m).1 = .waiting pc address) ∧
        x.due (p.memoryWork m).2 + 1 = x.due m ∧ x.settle (p.memoryWork m).2 = x.settle m) ∨
      (x.due m = 1 ∧ (p.memoryWork m).1 = .done (x.finish m.storage).1 ∧
        (p.memoryWork m).2 = x.settle m) := by
  unfold ExMem.due ExMem.settle ExMem.finish
  cases access : x.request? with
  | none =>
    rw [memoryWork_of_pass entry access]
    exact .inr ⟨rfl, rfl, rfl⟩
  | some request =>
    rw [memoryWork_of_request entry access]
    cases ready : (m.access request).1.ready with
    | false =>
      have wait : (MemoryPort.access m request).1.ready = false := ready
      simp only [wait]
      exact .inl ⟨⟨_, _, rfl⟩, Memory.access_of_unready ready⟩
    | true =>
      obtain ⟨due, answer, settled⟩ := Memory.access_of_ready ready
      refine .inr ⟨due, ?_, settled⟩
      have data : (MemoryPort.access m request).1 = (Memory.perform m.storage request).1 := answer
      simp only [data]
      exact if_pos (Memory.perform_ready ..)

/-! ## Waits of decode -/

/-- With nothing in flight an operand is what its register holds. -/
theorem Forwarded.resolve_idle (r : Nat) (stored : Word) :
    (resolve r stored {} {}).value = stored := by
  have nothing : ({} : Producer).produces r ≠ true := by
    rw [Producer.produces_empty]
    decide
  unfold resolve
  rw [if_neg nothing, if_neg nothing]

/-- Whether an operand of the word is still to be loaded by the instruction in front. -/
def IfId.waitsFor (f : IfId) (ex : Producer) : Bool :=
  let sources := f.inst.sources (Control.decode f.inst)
  !f.inst.isUnrecognised && FiveStage.loadUse [sources.rs1, sources.rs2] ex

namespace IfId

variable {f : IfId} {forwarding : Bool} {regs : RegisterFile} {ex mem : Producer}

/-- Decode waits for a load in any case, and for nothing else if it forwards. -/
theorem decode_waits (f : IfId) (forwarding : Bool) (regs : RegisterFile) (ex mem : Producer) :
    (f.waitsFor ex = true → ∃ reason, (f.decode forwarding regs ex mem).apply {} =
        ({} : Interlock).stall reason .decode) ∧
      ∀ reason, (f.decode forwarding regs ex mem).apply {} =
        ({} : Interlock).stall reason .decode → f.waitsFor ex = true ∨ forwarding = false := by
  unfold waitsFor decode
  by_cases empty : f.inst.isUnrecognised = true
  · rw [if_pos empty]
    simp only [empty]
    exact ⟨nofun, fun reason wait => by cases congrArg Interlock.stallPoint wait⟩
  · rw [if_neg empty]
    by_cases load : FiveStage.loadUse [(f.inst.sources (Control.decode f.inst)).rs1,
        (f.inst.sources (Control.decode f.inst)).rs2] ex = true
    · simp only [load, empty]
      exact ⟨fun _ => ⟨_, rfl⟩, fun _ _ => .inl rfl⟩
    · simp only [load, empty]
      refine ⟨nofun, fun reason wait => .inr ?_⟩
      cases forwarding with
      | false => rfl
      | true => exact (DecodeOutcome.apply_issued_ne _ _ _ _ _ wait).elim

/-- Decode that does not wait does as if the older instructions had written already. -/
theorem decode_congr {regs' : RegisterFile}
    (goes : ∀ reason, (f.decode forwarding regs ex mem).apply {} ≠
      ({} : Interlock).stall reason .decode)
    (values : ∀ r, (ex.produces r = true → ex.isLoad = false) →
      (Forwarded.resolve r (regs.read r) ex mem).value = regs'.read r) :
    (f.decode forwarding regs ex mem).latched? = (f.decode true regs' {} {}).latched? ∧
      (f.decode forwarding regs ex mem).apply {} = (f.decode true regs' {} {}).apply {} := by
  have calm : ∀ reason, (f.decode true regs' {} {}).apply {} ≠
      ({} : Interlock).stall reason .decode := by
    intro reason wait
    rcases (f.decode_waits true regs' {} {}).2 reason wait with load | off
    · simp [waitsFor, FiveStage.loadUse] at load
    · cases off
  rcases f.decode_cases forwarding regs ex mem with
    ⟨empty, dropped⟩ | ⟨reason, wait⟩ | ⟨recognised, e, hazards, operands, rfl, known, issued⟩
  · have same : f.decode true regs' {} {} = .dropped f := if_pos empty
    rw [dropped, same]
    exact ⟨rfl, rfl⟩
  · exact absurd wait (goes reason)
  · rcases f.decode_cases true regs' {} {} with
      ⟨empty, -⟩ | ⟨reason, wait⟩ | ⟨-, e, hazards', operands', rfl, -, issued'⟩
    · exact absurd (recognised.symm.trans empty) (by decide)
    · exact absurd wait (calm reason)
    · have entry : f.entry (fun r => (Forwarded.resolve r (regs.read r) ex mem).value) =
          f.entry (fun r => (Forwarded.resolve r (regs'.read r) {} {}).value) := by
        refine entry_congr fun r source => ?_
        rw [values r (known r source), Forwarded.resolve_idle]
      rw [issued, issued', entry]
      refine ⟨rfl, ?_⟩
      cases (f.entry fun r => (Forwarded.resolve r (regs'.read r) {} {}).value).redirect? <;> rfl

end IfId

/-! ## Outlooks -/

/-- What a pipeline has before it once the memory stage is done. The counters do not matter. -/
structure Outlook where
  pc : Word
  ifId : Option IfId
  idEx : Option IdEx
  stores : Stores
  imem : Memory
  bank : Bank ReferenceUnit

namespace Outlook

/-- What becomes of the instruction in the execute stage, and of the bank. -/
def execute (o : Outlook) (trapVector : Word) : ExecuteOutcome × Bank ReferenceUnit :=
  match o.idEx with
  | none => (.idle, (o.bank.cycle none none).2)
  | some e =>
      match e.inst.slot? with
      | none => (.done e.integerResult, (o.bank.cycle none none).2)
      | some slot =>
          let answer := o.bank.cycle (some slot) (some e.request)
          (e.answered trapVector slot answer.1, answer.2)

/-- Whether decode has to wait until the instruction in the execute stage has loaded. -/
def loads (o : Outlook) (trapVector : Word) : Bool :=
  o.ifId.any (·.waitsFor (o.execute trapVector).1.producer)

/-- The outlook after a cycle in which the instruction in the execute stage does not pass. -/
def detour (o : Outlook) (trapVector : Word) : Outlook :=
  let answer := o.execute trapVector
  match answer.1 with
  | .trapped trap target =>
      { o with
        pc := target, ifId := none, idEx := none
        bank := (answer.2.trapTaken trap).cleared SystemUnit.uncounted }
  | _ => { o with bank := answer.2.cleared SystemUnit.uncounted }

/-- The outlook once the instruction in the execute stage has passed. -/
def drain (o : Outlook) (trapVector : Word) : Outlook :=
  let answer := o.execute trapVector
  { o with
    idEx := none
    stores := o.stores.after answer.1.latched?
    bank := answer.2.cleared SystemUnit.uncounted }

/-- The outlook once decode has done with its word, with nothing in front of it, and fetch has
worked. -/
def issue (o : Outlook) : Outlook :=
  let decoded := decodeStage {} true o.ifId o.stores.regs {} {}
  match (decoded.apply {}).target with
  | some target => { o with pc := target, ifId := none, idEx := decoded.latched? }
  | none =>
      let fetched := fetchStage {} o.pc o.imem
      { o with
        pc := if fetched.1.latched?.isSome then o.pc + 4 else o.pc
        ifId := fetched.1.latched?
        idEx := decoded.latched?
        imem := fetched.2 }

section Issue

variable {o : Outlook} {decode : DecodeOutcome}
  (latched : decode.latched? = (decodeStage {} true o.ifId o.stores.regs {} {}).latched?)
  (asked : decode.apply {} = (decodeStage {} true o.ifId o.stores.regs {} {}).apply {})
include latched asked

theorem issue_of_redirect {target : Word}
    (leave : decode.apply {} = ({} : Interlock).flush .branchMispredict .fetch target) :
    o.issue = { o with pc := target, ifId := none, idEx := decode.latched? } := by
  have way : ((decodeStage {} true o.ifId o.stores.regs {} {}).apply {}).target = some target := by
    rw [← asked, leave]
    rfl
  unfold issue
  simp only [way, latched]

theorem issue_of_straight (straight : decode.apply {} = {}) :
    o.issue =
      { o with
        pc := if (fetchStage {} o.pc o.imem).1.latched?.isSome then o.pc + 4 else o.pc
        ifId := (fetchStage {} o.pc o.imem).1.latched?
        idEx := decode.latched?
        imem := (fetchStage {} o.pc o.imem).2 } := by
  have way : ((decodeStage {} true o.ifId o.stores.regs {} {}).apply {}).target = none := by
    rw [← asked, straight]
    rfl
  unfold issue
  simp only [way, latched]

end Issue

/-- What a cycle in which the memory stage is done makes of an outlook, and what execute hands on
in it. -/
inductive Step (trapVector : Word) (forwarding : Bool) (o : Outlook) :
    Option ExMem → Outlook → Prop where
  /-- Execute waits for its unit, or takes a trap. -/
  | detours (hindered : (o.execute trapVector).1.apply {} ≠ {}) :
      Step trapVector forwarding o none (o.detour trapVector)
  /-- Decode waits. -/
  | stalls (passes : (o.execute trapVector).1.apply {} = {})
      (wait : o.loads trapVector = true ∨ forwarding = false) :
      Step trapVector forwarding o (o.execute trapVector).1.latched? (o.drain trapVector)
  | goes (passes : (o.execute trapVector).1.apply {} = {}) (known : o.loads trapVector = false) :
      Step trapVector forwarding o (o.execute trapVector).1.latched? (o.drain trapVector).issue

namespace Step

variable {o : Outlook} {trapVector : Word} {forwarding : Bool}

theorem of_waiting (wait : (o.execute trapVector).1 = .waiting) :
    o.Step trapVector forwarding none
      { o with bank := (o.execute trapVector).2.cleared SystemUnit.uncounted } := by
  have hindered : (o.execute trapVector).1.apply {} ≠ {} := by
    rw [wait]
    intro passes
    cases congrArg Interlock.stallPoint passes
  have step : o.Step trapVector forwarding none _ := .detours hindered
  unfold detour at step
  simp only [wait] at step
  exact step

theorem of_trapped {trap : Trap} {target : Word}
    (raised : (o.execute trapVector).1 = .trapped trap target) :
    o.Step trapVector forwarding none
      { o with
        pc := target, ifId := none, idEx := none
        bank := ((o.execute trapVector).2.trapTaken trap).cleared SystemUnit.uncounted } := by
  have hindered : (o.execute trapVector).1.apply {} ≠ {} := by
    rw [raised]
    intro passes
    cases congrArg Interlock.redirect passes
  have step : o.Step trapVector forwarding none _ := .detours hindered
  unfold detour at step
  simp only [raised] at step
  exact step

end Step

end Outlook

namespace Pipeline

/-- The registers and the data memory of the pipeline. -/
def stores (p : Pipeline Memory Memory ReferenceUnit) : Stores where
  regs := p.core.committed
  data := p.dmem

def outlook (p : Pipeline Memory Memory ReferenceUnit) : Outlook where
  pc := p.core.pc
  ifId := p.core.latches.ifId
  idEx := p.core.latches.idEx
  stores := p.stores.after p.core.latches.exMem
  imem := p.imem
  bank := p.bank.cleared SystemUnit.uncounted

/-- The cycles that the memory stage still needs for its instruction. -/
def owed (p : Pipeline Memory Memory ReferenceUnit) : Nat :=
  p.core.latches.exMem.elim 0 (·.due p.dmem)

/-- What a cycle without inputs does, in which the memory stage hands on `moved`. -/
inductive QuietTurn (p next : Pipeline Memory Memory ReferenceUnit) (moved : Option MemWb) :
    Prop where
  /-- The memory stage waits. -/
  | waits (left : next.owed + 1 = p.owed) (more : 2 ≤ p.owed) (nothing : moved = none)
      (outlook : next.outlook = p.outlook)
      (kept : next.core.latches.exMem = p.core.latches.exMem)
  /-- The memory stage is done, and the other stages work. -/
  | works (last : p.owed ≤ 1) (passed : moved.isSome = p.core.latches.exMem.isSome)
      (stores : next.stores = p.outlook.stores)
      (step : p.outlook.Step p.core.settings.trapVector p.core.settings.forwarding
        next.core.latches.exMem next.outlook)

end Pipeline

/-! ## A cycle -/

/-- The bank after it is told of a trap, if there is one. -/
def Bank.notified (bank : Bank ReferenceUnit) (trap : Option Trap) : Bank ReferenceUnit :=
  match trap with
  | some trap => bank.trapTaken trap
  | none => bank

/-- The bank only counts what has retired. -/
theorem Bank.uncounted_retired (bank : Bank ReferenceUnit) :
    bank.retired.cleared SystemUnit.uncounted = bank.cleared SystemUnit.uncounted := by
  have told (unit : ReferenceUnit) : Sum.map SystemUnit.uncounted id (Coprocessor.retired unit) =
      Sum.map SystemUnit.uncounted id unit := by
    cases unit <;> rfl
  exact PerSlot.ext (told _) (told _) (told _) (told _)

/-- A bank that is offered nothing only counts the cycle. -/
theorem Bank.IsReference.uncounted_cycle_none {bank : Bank ReferenceUnit}
    {operation : Operation} {csrs : SystemUnit} (h : bank.IsReference operation csrs) :
    (bank.cycle none none).2.cleared SystemUnit.uncounted =
      bank.cleared SystemUnit.uncounted := by
  rw [h.cycle_none_eq]
  refine PerSlot.ext ?_ rfl rfl rfl
  change _ = Sum.map SystemUnit.uncounted id bank.cp0
  rw [h.cp0]
  rfl

theorem Cycle.uncounted_nextBank (c : Cycle Memory Memory ReferenceUnit) :
    c.nextBank.cleared SystemUnit.uncounted =
      (c.dispatch.bank.notified c.trap?).cleared SystemUnit.uncounted := by
  have counted : c.notifiedBank.cleared SystemUnit.uncounted =
      c.dispatch.bank.cleared SystemUnit.uncounted := by
    unfold notifiedBank
    split
    · exact Bank.uncounted_retired _
    · rfl
  unfold nextBank Bank.notified
  cases c.trap? with
  | none => exact counted
  | some trap =>
    change (c.notifiedBank.trapTaken trap).cleared _ = (c.dispatch.bank.trapTaken trap).cleared _
    rw [Bank.cleared_trapTaken SystemUnit.clears_uncounted, counted,
      ← Bank.cleared_trapTaken SystemUnit.clears_uncounted]

namespace Pipeline

variable {p : Pipeline Memory Memory ReferenceUnit}

/-- The execute stage and the bank do what the outlook says. -/
theorem execute_outlook {operation : Operation} {csrs : SystemUnit}
    (units : p.bank.IsReference operation csrs)
    (blind : ∀ e ∈ p.core.latches.idEx, ¬ e.inst.readsCounter) :
    (p.outlook.execute p.core.settings.trapVector).1 = (p.core.executeWork p.bank).1 ∧
      (p.outlook.execute p.core.settings.trapVector).2.cleared SystemUnit.uncounted =
        (p.core.executeWork p.bank).2.bank.cleared SystemUnit.uncounted := by
  have unoffered := units.cycle_none_cleared SystemUnit.clears_uncounted
  have idEx : p.outlook.idEx = p.core.latches.idEx := rfl
  unfold Outlook.execute
  rw [idEx]
  cases entry : p.core.latches.idEx with
  | none =>
    obtain ⟨outcome, bank⟩ := Core.executeWork_of_none entry p.bank
    rw [outcome, bank]
    exact ⟨rfl, unoffered.symm⟩
  | some e =>
    simp only
    cases owned : e.inst.slot? with
    | none =>
      obtain ⟨outcome, bank⟩ := Core.executeWork_of_integer entry owned p.bank
      rw [outcome, bank]
      exact ⟨rfl, unoffered.symm⟩
    | some slot =>
      obtain ⟨outcome, bank⟩ := Core.executeWork_of_slot entry owned p.bank
      have asked : ∀ req ∈ Bank.offered (some slot) (some e.request) .cp0,
          req.instruction.slot? = some .cp0 ∧
            ∀ r, (r = .cycle ∨ r = .instret) → ¬ req.instruction.reads r := by
        intro req offered
        unfold Bank.offered at offered
        split at offered
        case isFalse => cases offered
        case isTrue selected =>
          cases offered
          refine ⟨owned.trans selected, fun r counts reads => blind e entry ?_⟩
          exact (Instruction.readsCounter_iff e.inst).mpr ⟨r, counts, reads⟩
      obtain ⟨answer, left⟩ := units.cycle_cleared SystemUnit.clears_uncounted asked
      rw [outcome, bank, answer]
      exact ⟨rfl, left.symm⟩

/-- What the memory stage leaves behind once it is done. -/
theorem stores_of_memory (memory : (p.core.memoryWork p.dmem).1.apply {} = {}) :
    p.owed ≤ 1 ∧
      (p.core.memoryWork p.dmem).1.latched?.isSome = p.core.latches.exMem.isSome ∧
      p.outlook.stores =
        { regs := p.core.committed.commit (p.core.memoryWork p.dmem).1.latched?
          data := (p.core.memoryWork p.dmem).2 } := by
  unfold owed outlook stores
  cases entry : p.core.latches.exMem with
  | none =>
    rw [Core.memoryWork_of_none entry]
    exact ⟨Nat.zero_le 1, rfl, rfl⟩
  | some x =>
    rcases Core.memoryWork_due entry p.dmem with ⟨⟨pc, address, wait⟩, -⟩ | ⟨due, done, settled⟩
    · rw [wait] at memory
      cases memory
    · rw [done, settled]
      exact ⟨Nat.le_of_eq due, rfl, rfl⟩

/-- A cycle in which the memory stage waits. -/
theorem waits_of_memory {next : Pipeline Memory Memory ReferenceUnit} {pc address : Word}
    (wait : (p.core.memoryWork p.dmem).1 = .waiting pc address)
    (kept : next.core.latches.exMem = p.core.latches.exMem)
    (stores : next.stores = { regs := p.core.committed, data := (p.core.memoryWork p.dmem).2 }) :
    next.owed + 1 = p.owed ∧ 2 ≤ p.owed ∧
      next.stores.after next.core.latches.exMem = p.stores.after p.core.latches.exMem := by
  have storage := Core.memoryWork_storage wait
  have port : next.dmem = (p.core.memoryWork p.dmem).2 := congrArg Stores.data stores
  unfold owed
  rw [kept, stores, port]
  cases entry : p.core.latches.exMem with
  | none =>
    rw [Core.memoryWork_of_none entry] at wait
    cases wait
  | some x =>
    rcases Core.memoryWork_due entry p.dmem with ⟨-, due, settled⟩ | ⟨-, done, -⟩
    · have more := x.due_pos (p.core.memoryWork p.dmem).2
      refine ⟨due, ?_, ?_⟩
      · change 2 ≤ x.due p.dmem
        omega
      · unfold Stores.after
        simp only [storage, settled]
        rfl
    · rw [wait] at done
      cases done

/-- Decode waits as the outlook says, and otherwise does as if what execute hands on had written
already. -/
theorem decode_outlook (informed : p.Informed)
    (memory : (p.core.memoryWork p.dmem).1.apply {} = {})
    (execution : (p.outlook.execute p.core.settings.trapVector).1 =
      (p.core.executeWork p.bank).1) :
    let decode := p.core.decodeWork p.dmem p.bank
    let drained := p.outlook.drain p.core.settings.trapVector
    let decoded := decodeStage {} true drained.ifId drained.stores.regs {} {}
    (∀ reason, decode.apply {} = ({} : Interlock).stall reason .decode →
        p.outlook.loads p.core.settings.trapVector = true ∨ p.core.settings.forwarding = false) ∧
      ((∀ reason, decode.apply {} ≠ ({} : Interlock).stall reason .decode) →
        p.outlook.loads p.core.settings.trapVector = false ∧
          decode.latched? = decoded.latched? ∧ decode.apply {} = decoded.apply {}) := by
  intro decode drained decoded
  obtain ⟨-, -, stores⟩ := stores_of_memory memory
  obtain ⟨small, operands⟩ := informed.memory memory
  have word : p.outlook.ifId = p.core.latches.ifId := rfl
  have left : drained.stores.regs =
      (p.outlook.stores.after (p.core.executeWork p.bank).1.latched?).regs := by
    rw [← execution]
    rfl
  have values (r : Nat) (known : (p.core.executeWork p.bank).1.producer.produces r = true →
      (p.core.executeWork p.bank).1.producer.isLoad = false) :
      (Forwarded.resolve r (p.core.committed.read r) (p.core.executeWork p.bank).1.producer
        (p.core.memoryWork p.dmem).1.producer).value = drained.stores.regs.read r := by
    have passed : ∀ x ∈ (p.core.executeWork p.bank).1.latched?, x.rd < 32 := by
      intro x done
      obtain ⟨e, member, becomes⟩ := Core.executeWork_latched done
      exact ((operands e member).becomes becomes).rd
    rw [Forwarded.resolve_value _ _ small, left, ← Stores.ahead_after _ passed known, stores]
  have stage : decode = decodeStage {} p.core.settings.forwarding p.core.latches.ifId
      p.core.committed (p.core.executeWork p.bank).1.producer
      (p.core.memoryWork p.dmem).1.producer := rfl
  have behind : decoded = decodeStage {} true p.core.latches.ifId drained.stores.regs {} {} := rfl
  unfold Outlook.loads
  rw [word, execution, stage, behind]
  cases p.core.latches.ifId with
  | none =>
    refine ⟨fun reason wait => ?_, fun _ => ⟨rfl, rfl, rfl⟩⟩
    cases congrArg Interlock.stallPoint wait
  | some f =>
    obtain ⟨waits, cause⟩ := f.decode_waits p.core.settings.forwarding p.core.committed
      (p.core.executeWork p.bank).1.producer (p.core.memoryWork p.dmem).1.producer
    refine ⟨cause, fun goes => ⟨?_, IfId.decode_congr goes values⟩⟩
    rw [← Bool.not_eq_true]
    intro load
    obtain ⟨reason, wait⟩ := waits load
    exact goes reason wait

end Pipeline

/-- The outlook that the clock edge leaves. -/
theorem Cycle.LeavesAt.outlook {c : Cycle Memory Memory ReferenceUnit} {p : Core}
    {latches : Latches} {pc : Word} {trap : Option Trap} (leaves : c.LeavesAt p latches pc trap) :
    (c.edge p).next.outlook =
      { pc, ifId := latches.ifId, idEx := latches.idEx
        stores := ({ regs := c.regs.commit latches.memWb, data := c.dmem } : Stores).after
          latches.exMem
        imem := c.imem
        bank := (c.dispatch.bank.notified trap).cleared SystemUnit.uncounted } := by
  obtain ⟨rfl, rfl, rfl⟩ := leaves
  have bank := c.uncounted_nextBank
  unfold Pipeline.outlook
  rw [← bank]
  rfl

/-- A cycle in which the memory stage is done goes as the outlook goes. -/
theorem Cycle.LeavesAt.works {p : Pipeline Memory Memory ReferenceUnit}
    {c : Cycle Memory Memory ReferenceUnit} {latches : Latches} {pc : Word} {trap : Option Trap}
    (leaves : c.LeavesAt p.core latches pc trap)
    (memory : (p.core.memoryWork p.dmem).1.apply {} = {})
    (outcome : c.memory = (p.core.memoryWork p.dmem).1) (regs : c.regs = p.core.committed)
    (data : c.dmem = (p.core.memoryWork p.dmem).2)
    (memWb : latches.memWb = (p.core.memoryWork p.dmem).1.latched?)
    (step : p.outlook.Step p.core.settings.trapVector p.core.settings.forwarding latches.exMem
      { pc, ifId := latches.ifId, idEx := latches.idEx
        stores := p.outlook.stores.after latches.exMem
        imem := c.imem
        bank := (c.dispatch.bank.notified trap).cleared SystemUnit.uncounted }) :
    p.QuietTurn (c.edge p.core).next c.memory.latched? := by
  obtain ⟨last, passed, stores⟩ := Pipeline.stores_of_memory memory
  have outlook := leaves.outlook
  rw [regs, data, memWb, ← stores] at outlook
  rw [outcome]
  refine .works last passed ?_ ?_
  · rw [stores, ← memWb, ← regs, ← data, ← leaves.latches_eq]
    rfl
  · rw [outlook]
    rw [← leaves.latches_eq] at step ⊢
    exact step

namespace Pipeline

variable {p : Pipeline Memory Memory ReferenceUnit}

/-- A cycle in which the memory stage waits keeps the outlook. -/
theorem QuietTurn.of_dataWaiting {operation : Operation} {csrs : SystemUnit}
    (units : p.bank.IsReference operation csrs) {pc address : Word}
    (wait : (p.core.memoryWork p.dmem).1 = .waiting pc address) :
    let c := p.core.assemble {} p.core.latches.memWb (p.core.memoryWork p.dmem)
      (.idle, p.core.dispatcher.cycle (dispatchInputs p.core.latches.idEx true) p.bank) .idle
      (.idle, p.imem)
    p.QuietTurn (c.edge p.core).next c.memory.latched? := by
  intro c
  have leaves := p.core.leavesAt_dataWaiting wait p.imem p.bank
  have latches : (c.edge p.core).next.core.latches = { p.core.latches with memWb := none } :=
    leaves.latches_eq
  have bank : (c.dispatch.bank.notified none).cleared SystemUnit.uncounted =
      p.bank.cleared SystemUnit.uncounted := by
    rw [← units.uncounted_cycle_none,
      ← p.core.dispatcher.bank_cycle_held p.core.latches.idEx p.bank]
    rfl
  have stores : (c.edge p.core).next.stores =
      { regs := p.core.committed, data := (p.core.memoryWork p.dmem).2 } := by
    unfold Pipeline.stores Core.committed
    rw [latches]
    rfl
  obtain ⟨left, more, after⟩ := waits_of_memory wait (by rw [latches]) stores
  refine .waits left more ?_ ?_ (by rw [latches])
  · change (p.core.memoryWork p.dmem).1.latched? = none
    rw [wait]
    rfl
  · rw [stores, latches] at after
    rw [leaves.outlook, bank]
    unfold Pipeline.outlook
    rw [← after]
    rfl

/-- A cycle without inputs keeps the outlook, or goes as the outlook goes. -/
theorem tick_quiet {operation : Operation} {csrs : SystemUnit}
    (units : p.bank.IsReference operation csrs) (informed : p.Informed)
    (blind : ∀ e ∈ p.core.latches.idEx, ¬ e.inst.readsCounter) :
    p.QuietTurn (p.tick {}).next (p.moved {}) := by
  obtain ⟨execution, bank⟩ := execute_outlook units blind
  have flow := evaluate_flow p.core p.imem p.dmem p.bank {}
  change p.QuietTurn ((p.core.evaluate p.imem p.dmem p.bank {}).edge p.core).next
    (p.core.evaluate p.imem p.dmem p.bank {}).memory.latched?
  generalize p.core.evaluate p.imem p.dmem p.bank {} = c at flow ⊢
  have drained : p.outlook.drain p.core.settings.trapVector =
      { p.outlook with
        idEx := none
        stores := p.outlook.stores.after (p.core.executeWork p.bank).1.latched?
        bank := (p.core.executeWork p.bank).2.bank.cleared SystemUnit.uncounted } := by
    unfold Outlook.drain
    simp only [execution, bank]
  cases flow with
  | dataWaiting wait => exact QuietTurn.of_dataWaiting units wait
  | coprocessorWaiting memory wait =>
    refine (p.core.leavesAt_coprocessorWaiting memory wait p.imem).works memory rfl rfl rfl rfl ?_
    have step : p.outlook.Step _ p.core.settings.forwarding none _ :=
      .of_waiting (execution.trans wait)
    rw [bank] at step
    exact step
  | trapped memory raised =>
    refine (p.core.leavesAt_trapped memory raised p.imem).works memory rfl rfl rfl rfl ?_
    have step : p.outlook.Step _ p.core.settings.forwarding none _ :=
      .of_trapped (execution.trans raised)
    rw [Bank.cleared_trapTaken SystemUnit.clears_uncounted, bank,
      ← Bank.cleared_trapTaken SystemUnit.clears_uncounted] at step
    exact step
  | operandWaiting memory execute wait =>
    refine (p.core.leavesAt_operandWaiting memory execute wait p.imem).works memory rfl rfl rfl
      rfl ?_
    obtain ⟨cause, -⟩ := decode_outlook informed memory execution
    have step : p.outlook.Step _ p.core.settings.forwarding _ _ :=
      .stalls (execution.symm ▸ execute) (cause _ wait)
    rw [drained, execution] at step
    exact step
  | redirected memory execute leave =>
    refine (p.core.leavesAt_redirected memory execute leave p.imem).works memory rfl rfl rfl rfl ?_
    obtain ⟨known, latched, asked⟩ := (decode_outlook informed memory execution).2 fun reason => by
      rw [leave]
      intro wait
      cases congrArg Interlock.stallPoint wait
    have step : p.outlook.Step _ p.core.settings.forwarding _ _ :=
      .goes (execution.symm ▸ execute) known
    rw [Outlook.issue_of_redirect latched asked leave, drained, execution] at step
    exact step
  | straight memory execute decode =>
    refine (p.core.leavesAt_straight memory execute decode _).works memory rfl rfl rfl rfl ?_
    obtain ⟨known, latched, asked⟩ := (decode_outlook informed memory execution).2 fun reason => by
      rw [decode]
      intro wait
      cases congrArg Interlock.stallPoint wait
    have step : p.outlook.Step _ p.core.settings.forwarding _ _ :=
      .goes (execution.symm ▸ execute) known
    rw [Outlook.issue_of_straight latched asked decode, drained, execution] at step
    exact step

end Pipeline

end FiveStage
