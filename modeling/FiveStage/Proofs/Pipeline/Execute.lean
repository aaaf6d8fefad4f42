import FiveStage.Proofs.Coprocessor.ReferenceBank
import FiveStage.Proofs.Pipeline.Flow

/-!
# The execute stage and the bank

What the execute stage makes of its instruction, by the way it is executed, and what the bank is
offered meanwhile. With the reference bank that leaves five ways, which `ExecuteFlow` lists.
-/

namespace FiveStage

variable {σ : Type} [Coprocessor σ]

namespace Dispatcher

/-- A cycle without a detection offers nothing. -/
theorem cycle_of_idle (d : Dispatcher) {i : DispatchInputs} (idle : i.detection = {})
    (bank : Bank σ) :
    (d.cycle i bank).outputs.offloaded = false ∧
      (d.cycle i bank).bank = (bank.cycle none none).2 := by
  have request : i.request = none := by
    unfold DispatchInputs.request
    rw [idle]
    rfl
  unfold cycle
  rw [request, idle]
  exact ⟨rfl, rfl⟩

@[simp]
theorem bank_cycle_empty (d : Dispatcher) (bank : Bank σ) :
    (d.cycle {} bank).bank = (bank.cycle none none).2 :=
  (d.cycle_of_idle rfl bank).2

/-- What the watch makes of a cycle without a detection. -/
theorem watch_of_idle (d : Dispatcher) {i : DispatchInputs} (idle : i.detection = {})
    (bank : Bank σ) :
    (d.cycle i bank).dispatcher.waited = (if i.held then d.waited else 0) ∧
      (d.cycle i bank).warning = none := by
  unfold cycle nextWaited warning? DispatchInputs.complete
  rw [idle]
  exact ⟨rfl, rfl⟩

end Dispatcher

/-! ## What the dispatcher is shown -/

/-- An instruction that is held is not detected. -/
theorem detection_held (entry : Option IdEx) : (dispatchInputs entry true).detection = {} := by
  cases entry with
  | none => rfl
  | some e => cases owned : e.inst.slot? <;> simp [dispatchInputs, owned] <;> rfl

/-- Only the instruction of a coprocessor is shown as held. -/
theorem held_dispatchInputs (entry : Option IdEx) :
    (dispatchInputs entry true).held = entry.any (·.inst.slot?.isSome) := by
  cases entry with
  | none => rfl
  | some e => cases owned : e.inst.slot? <;> simp [dispatchInputs, owned]

namespace IdEx

/-- What a coprocessor is offered for the instruction. -/
def request (e : IdEx) : Offload :=
  { instruction := e.inst, a := e.rv1, b := e.rv2 }

/-- The dispatcher is not shown any other instruction. -/
theorem dispatchInputs_of_integer {e : IdEx} (integer : e.inst.slot? = none) (held : Bool) :
    dispatchInputs (some e) held = {} := by
  simp [dispatchInputs, integer]

/-- The dispatcher is shown the instruction of a coprocessor, and offers it. -/
theorem dispatchInputs_of_slot {e : IdEx} {slot : Slot} (owned : e.inst.slot? = some slot) :
    dispatchInputs (some e) false =
        { instruction := e.inst, valid := true, a := e.rv1, b := e.rv2 } ∧
      (dispatchInputs (some e) false).detection = { offloaded := true, select := some slot } ∧
      (dispatchInputs (some e) false).request = some e.request := by
  have shown : dispatchInputs (some e) false =
      { instruction := e.inst, valid := true, a := e.rv1, b := e.rv2 } := by
    simp [dispatchInputs, owned]
  have detection : (dispatchInputs (some e) false).detection =
      { offloaded := true, select := some slot } := by
    rw [shown]
    simp [DispatchInputs.detection, Detection.ofInstruction, owned]
  refine ⟨shown, detection, ?_⟩
  unfold DispatchInputs.request
  rw [detection, shown]
  rfl

end IdEx

namespace Dispatcher

/-- An instruction that is held is not offered. -/
theorem offloaded_cycle_held (d : Dispatcher) (entry : Option IdEx) (bank : Bank σ) :
    (d.cycle (dispatchInputs entry true) bank).outputs.offloaded = false :=
  (d.cycle_of_idle (detection_held entry) bank).1

@[simp]
theorem bank_cycle_held (d : Dispatcher) (entry : Option IdEx) (bank : Bank σ) :
    (d.cycle (dispatchInputs entry true) bank).bank = (bank.cycle none none).2 :=
  (d.cycle_of_idle (detection_held entry) bank).2

/-- The wait of an instruction that is held is kept. -/
theorem waited_cycle_held (d : Dispatcher) (entry : Option IdEx) (bank : Bank σ) :
    (d.cycle (dispatchInputs entry true) bank).dispatcher.waited =
      if entry.any (·.inst.slot?.isSome) then d.waited else 0 := by
  rw [(d.watch_of_idle (detection_held entry) bank).1, held_dispatchInputs]

/-- A wait that has become longer gives a warning when it reaches the threshold. -/
theorem warning?_succ (d : Dispatcher) {outputs : DispatchOutputs}
    (waits : outputs.stallRequest = true) {slot : Slot} (select : outputs.select = some slot)
    (bank : Bank σ) (waited : Nat) :
    d.warning? outputs bank (waited + 1) =
      if d.warnAfter = waited + 1 then some (.starved slot (bank.name slot) (waited + 1))
      else none := by
  unfold warning?
  by_cases reached : d.warnAfter = waited + 1
  · simp [waits, select, reached]
  · simp [reached, Ne.symm reached]

/-- What the watch makes of an instruction that its unit answers. -/
theorem watch_of_ready (d : Dispatcher) {e : IdEx} {slot : Slot} (owned : e.inst.slot? = some slot)
    {bank : Bank σ} (ready : (bank.cycle (some slot) (some e.request)).1.ready = true) :
    (d.cycle (dispatchInputs (some e) false) bank).dispatcher.waited = 0 ∧
      (d.cycle (dispatchInputs (some e) false) bank).warning = none := by
  obtain ⟨shown, detection, request⟩ := IdEx.dispatchInputs_of_slot owned
  unfold cycle nextWaited warning? DispatchInputs.complete
  rw [request, detection, shown]
  simp [ready]

/-- What the watch makes of an instruction that its unit does not answer. -/
theorem watch_of_unready (d : Dispatcher) {e : IdEx} {slot : Slot}
    (owned : e.inst.slot? = some slot) {bank : Bank σ}
    (unready : (bank.cycle (some slot) (some e.request)).1.ready = false) :
    (d.cycle (dispatchInputs (some e) false) bank).dispatcher.waited = d.waited + 1 ∧
      (d.cycle (dispatchInputs (some e) false) bank).warning =
        if d.warnAfter = d.waited + 1 then
          some (.starved slot ((bank.cycle (some slot) (some e.request)).2.name slot)
            (d.waited + 1))
        else none := by
  obtain ⟨shown, detection, request⟩ := IdEx.dispatchInputs_of_slot owned
  have waits : (DispatchInputs.complete (dispatchInputs (some e) false)
      { offloaded := true, select := some slot } (some e.request)
      (bank.cycle (some slot) (some e.request)).1).stallRequest = true := by
    unfold DispatchInputs.complete
    simp [unready]
  unfold cycle nextWaited
  rw [request, detection]
  dsimp only
  rw [if_pos waits]
  exact ⟨rfl, d.warning?_succ waits rfl _ _⟩

end Dispatcher

namespace IdEx

/-- The entry that is left of an instruction that a coprocessor answered with `data`. -/
def offloadResult (e : IdEx) (slot : Slot) (data : Word) : ExMem :=
  { e.integerResult with
    writes := e.inst.rd.toNat != 0, result := data, coprocessor := some slot }

/-- The entry `x` is what execute makes of the instruction in `e`. -/
inductive Becomes (e : IdEx) : ExMem → Prop where
  | integer (integer : e.inst.slot? = none) : e.Becomes e.integerResult
  | offloaded {slot : Slot} (owned : e.inst.slot? = some slot) (data : Word) :
      e.Becomes (e.offloadResult slot data)

namespace Becomes

variable {e : IdEx} {x : ExMem} (h : e.Becomes x)
include h

theorem pc : x.pc = e.pc := by
  cases h <;> rfl

theorem inst : x.inst = e.inst := by
  cases h <;> rfl

theorem rd : x.rd = e.rd := by
  cases h <;> rfl

theorem ctrl : x.ctrl = e.ctrl := by
  cases h <;> rfl

end Becomes

/-- What becomes of the instruction when the unit in `slot` answers. -/
def answered (e : IdEx) (trapVector : Word) (slot : Slot) (response : CoprocessorResponse) :
    ExecuteOutcome :=
  if response.exception then
    .trapped { cause := .coprocessorException slot e.inst, pc := e.pc } trapVector
  else if response.ready then .done (e.offloadResult slot response.data)
  else .waiting

end IdEx

namespace Core

variable {p : Core}

/-- The dispatcher runs in every cycle in which the execute stage works. -/
theorem dispatch_executeWork (p : Core) (bank : Bank σ) :
    (p.executeWork bank).2 = p.dispatcher.cycle (dispatchInputs p.latches.idEx false) bank := by
  unfold executeWork executeStage
  cases p.latches.idEx <;> rfl

theorem executeWork_of_none (empty : p.latches.idEx = none) (bank : Bank σ) :
    (p.executeWork bank).1 = .idle ∧ (p.executeWork bank).2.bank = (bank.cycle none none).2 := by
  unfold executeWork
  rw [empty]
  exact ⟨rfl, p.dispatcher.bank_cycle_empty bank⟩

variable {e : IdEx}

theorem executeWork_of_integer (entry : p.latches.idEx = some e) (integer : e.inst.slot? = none)
    (bank : Bank σ) :
    (p.executeWork bank).1 = .done e.integerResult ∧
      (p.executeWork bank).2.bank = (bank.cycle none none).2 := by
  have shown : dispatchInputs (some e) false = {} := IdEx.dispatchInputs_of_integer integer false
  unfold executeWork
  rw [entry]
  change ExecuteOutcome.resolve e (p.dispatcher.cycle (dispatchInputs (some e) false) bank).outputs
    p.settings.trapVector = _ ∧ (p.dispatcher.cycle (dispatchInputs (some e) false) bank).bank = _
  rw [shown]
  exact ⟨rfl, p.dispatcher.bank_cycle_empty bank⟩

theorem executeWork_of_slot {slot : Slot} (entry : p.latches.idEx = some e)
    (owned : e.inst.slot? = some slot) (bank : Bank σ) :
    let r := bank.cycle (some slot) (some e.request)
    (p.executeWork bank).1 = e.answered p.settings.trapVector slot r.1 ∧
      (p.executeWork bank).2.bank = r.2 := by
  intro r
  obtain ⟨shown, detection, request⟩ := IdEx.dispatchInputs_of_slot owned
  unfold executeWork
  rw [entry]
  change ExecuteOutcome.resolve e (p.dispatcher.cycle (dispatchInputs (some e) false) bank).outputs
    p.settings.trapVector = _ ∧ (p.dispatcher.cycle (dispatchInputs (some e) false) bank).bank = _
  unfold Dispatcher.cycle
  rw [request, detection, shown]
  refine ⟨?_, rfl⟩
  unfold ExecuteOutcome.resolve DispatchInputs.complete IdEx.answered IdEx.offloadResult
  cases exception : r.1.exception <;> cases ready : r.1.ready <;>
    simp only [r] at exception ready <;> simp [r, exception, ready]

/-- An execute stage that asks for nothing is done with its instruction. -/
theorem executeWork_of_quiet {bank : Bank σ} (entry : p.latches.idEx = some e)
    (quiet : (p.executeWork bank).1.apply {} = {}) :
    ∃ x, (p.executeWork bank).1 = .done x ∧ e.Becomes x := by
  cases owned : e.inst.slot? with
  | none => exact ⟨_, (executeWork_of_integer entry owned bank).1, .integer owned⟩
  | some slot =>
    rw [(executeWork_of_slot entry owned bank).1] at quiet ⊢
    unfold IdEx.answered at quiet ⊢
    split
    case isTrue raised =>
      rw [if_pos raised] at quiet
      cases congrArg Interlock.redirect quiet
    case isFalse calm =>
      rw [if_neg calm] at quiet
      split
      · exact ⟨_, rfl, .offloaded owned _⟩
      case isFalse unready =>
        rw [if_neg unready] at quiet
        cases congrArg Interlock.stallPoint quiet

/-- What execute hands on is made of the instruction that decode issued. -/
theorem executeWork_latched {bank : Bank σ} {x : ExMem}
    (done : x ∈ (p.executeWork bank).1.latched?) : ∃ e ∈ p.latches.idEx, e.Becomes x := by
  have outcome : (p.executeWork bank).1 = .done x := by
    cases outcome : (p.executeWork bank).1 with
    | done y =>
      rw [outcome] at done
      cases done
      rfl
    | _ =>
      rw [outcome] at done
      cases done
  have quiet : (p.executeWork bank).1.apply {} = {} := by
    rw [outcome]
    rfl
  cases entry : p.latches.idEx with
  | none =>
    rw [(executeWork_of_none entry bank).1] at outcome
    cases outcome
  | some e =>
    obtain ⟨y, done, becomes⟩ := executeWork_of_quiet entry quiet
    cases done.symm.trans outcome
    exact ⟨e, rfl, becomes⟩

end Core

/-! ## The reference bank -/

section Reference

variable {bank : Bank ReferenceUnit} {operation : Operation} {csrs : SystemUnit}

theorem Bank.IsReference.dispatch_empty (h : bank.IsReference operation csrs) (d : Dispatcher) :
    (d.cycle {} bank).bank.IsReference operation { csrs with cycle := csrs.cycle + 1 } := by
  rw [d.bank_cycle_empty]
  exact h.cycle_none

theorem Bank.IsReference.dispatch_held (h : bank.IsReference operation csrs) (d : Dispatcher)
    (entry : Option IdEx) :
    (d.cycle (dispatchInputs entry true) bank).bank.IsReference operation
      { csrs with cycle := csrs.cycle + 1 } := by
  rw [d.bank_cycle_held]
  exact h.cycle_none

/-- The outcomes of the execute stage, with the system unit before and after its work. -/
inductive ExecuteFlow (p : Core) (operation : Operation) (csrs : SystemUnit) :
    ExecuteOutcome → SystemUnit → Prop where
  | idle (empty : p.latches.idEx = none) : ExecuteFlow p operation csrs .idle csrs
  /-- The integer unit executes the instruction. -/
  | integer {e : IdEx} (entry : p.latches.idEx = some e) (integer : e.inst.slot? = none) :
      ExecuteFlow p operation csrs (.done e.integerResult) csrs
  /-- The coprocessor is not ready. -/
  | waiting {e : IdEx} {slot : Slot} (entry : p.latches.idEx = some e)
      (owned : e.inst.slot? = some slot) : ExecuteFlow p operation csrs .waiting csrs
  /-- The coprocessor raises its exception line, and nothing has changed. -/
  | trapped {e : IdEx} {slot : Slot} (entry : p.latches.idEx = some e)
      (owned : e.inst.slot? = some slot)
      (raised : (Bank.answer operation csrs slot e.request).1.exception = true) :
      ExecuteFlow p operation csrs
        (.trapped { cause := .coprocessorException slot e.inst, pc := e.pc }
          p.settings.trapVector)
        csrs
  /-- The coprocessor answers. -/
  | offloaded {e : IdEx} {slot : Slot} (entry : p.latches.idEx = some e)
      (owned : e.inst.slot? = some slot)
      (quiet : (Bank.answer operation csrs slot e.request).1.exception = false) :
      ExecuteFlow p operation csrs
        (.done (e.offloadResult slot (Bank.answer operation csrs slot e.request).1.data))
        (Bank.answer operation csrs slot e.request).2

/-- The work of the execute stage has a flow from the system unit that has counted the cycle. -/
theorem Core.executeWork_flow (p : Core) (units : bank.IsReference operation csrs) :
    ∃ csrs', (p.executeWork bank).2.bank.IsReference operation csrs' ∧
      ExecuteFlow p operation { csrs with cycle := csrs.cycle + 1 } (p.executeWork bank).1
        csrs' := by
  cases entry : p.latches.idEx with
  | none =>
    obtain ⟨idle, next⟩ := executeWork_of_none entry bank
    rw [idle, next]
    exact ⟨_, units.cycle_none, .idle entry⟩
  | some e =>
    cases owned : e.inst.slot? with
    | none =>
      obtain ⟨done, next⟩ := executeWork_of_integer entry owned bank
      rw [done, next]
      exact ⟨_, units.cycle_none, .integer entry owned⟩
    | some slot =>
      obtain ⟨outcome, next⟩ := executeWork_of_slot entry owned bank
      rw [outcome, next]
      rcases units.cycle_some slot e.request with ⟨wait, units'⟩ | ⟨answer, units'⟩
      · rw [wait]
        exact ⟨_, units', .waiting entry owned⟩
      · rw [answer]
        unfold IdEx.answered
        cases raised : (Bank.answer operation { csrs with cycle := csrs.cycle + 1 } slot
            e.request).1.exception with
        | true =>
          rw [Bank.answer_of_exception raised] at units'
          rw [if_pos rfl]
          exact ⟨_, units', .trapped entry owned raised⟩
        | false =>
          rw [if_neg (by decide), if_pos (Bank.answer_ready ..)]
          exact ⟨_, units', .offloaded entry owned raised⟩

end Reference

end FiveStage
