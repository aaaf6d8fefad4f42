import FiveStage.Coprocessor.Dispatcher
import FiveStage.Coprocessor.Reference

/-!
# The reference bank as a function

Apart from the time it takes, a unit of the reference bank answers an operation as a function of
it, and only the system unit has a state that instructions see. `Bank.IsReference` names that state,
and `IsReference.cycle_some` says what a cycle of the bank answers and where it leaves the state.
Two registers of the system unit count, and so depend on time; the others are `uncounted`.
-/

namespace FiveStage

/-- Whether the instruction reads one of the two counters into a register. Instructions that write
them raise the exception line instead. -/
def Instruction.readsCounter (inst : Instruction) : Prop :=
  inst.slot? = some .cp0 ∧
    ((CsrOperation.ofFunct3? inst.funct3.toNat).any fun op => !SystemUnit.writes op inst) = true ∧
    (Csr.ofAddress? inst.csr.toNat = some .cycle ∨ Csr.ofAddress? inst.csr.toNat = some .instret)

instance (inst : Instruction) : Decidable inst.readsCounter :=
  inferInstanceAs (Decidable (_ ∧ _ ∧ (_ ∨ _)))

/-- Whether the instruction reads a register of the system unit and leaves it alone. -/
def Instruction.reads (inst : Instruction) (r : Csr) : Prop :=
  inst.slot? = some .cp0 ∧
    ((CsrOperation.ofFunct3? inst.funct3.toNat).any fun op => !SystemUnit.writes op inst) = true ∧
    Csr.ofAddress? inst.csr.toNat = some r

instance (inst : Instruction) (r : Csr) : Decidable (inst.reads r) :=
  inferInstanceAs (Decidable (_ ∧ _ ∧ _))

/-- The counters are two of the registers that an instruction may read. -/
theorem Instruction.readsCounter_iff (inst : Instruction) :
    inst.readsCounter ↔ ∃ r, (r = .cycle ∨ r = .instret) ∧ inst.reads r := by
  constructor
  · rintro ⟨owned, quiet, reg | reg⟩
    · exact ⟨_, .inl rfl, owned, quiet, reg⟩
    · exact ⟨_, .inr rfl, owned, quiet, reg⟩
  · rintro ⟨r, rfl | rfl, owned, quiet, reg⟩
    · exact ⟨owned, quiet, .inl reg⟩
    · exact ⟨owned, quiet, .inr reg⟩

namespace SystemUnit

/-! ## Registers that are hidden -/

section Hidden

variable {u v : SystemUnit} {hidden : Csr → Prop}

/-- The units have the same values in every register that is not hidden. -/
def AgreesBut (hidden : Csr → Prop) (u v : SystemUnit) : Prop :=
  ∀ r, ¬ hidden r → u.read r = v.read r

theorem AgreesBut.write (agree : AgreesBut hidden u v) (r : Csr) (value : Word) :
    AgreesBut hidden (u.write r value) (v.write r value) := by
  intro t visible
  rw [read_write, read_write, agree t visible]

/-- Units that agree but for some read-only registers treat an instruction alike that reads none of
them. -/
theorem AgreesBut.execute (agree : AgreesBut hidden u v)
    (fixed : ∀ r, hidden r → r.isReadOnly = true) {req : Offload}
    (owned : req.instruction.slot? = some .cp0)
    (blind : ∀ r, hidden r → ¬ req.instruction.reads r) :
    (u.execute req).1 = (v.execute req).1 ∧
      AgreesBut hidden (u.execute req).2 (v.execute req).2 := by
  unfold SystemUnit.execute
  cases code : CsrOperation.ofFunct3? req.instruction.funct3.toNat with
  | none => exact ⟨rfl, agree⟩
  | some op =>
    cases reg : Csr.ofAddress? req.instruction.csr.toNat with
    | none => exact ⟨rfl, agree⟩
    | some r =>
      by_cases covered : hidden r
      · -- A write is refused, so that only a read could make a difference.
        have writes : writes op req.instruction = true := by
          rw [← Bool.not_eq_false]
          intro quiet
          exact blind r covered ⟨owned, by rw [code]; simpa using quiet, reg⟩
        simp [writes, fixed r covered, agree]
      · have old := agree r covered
        by_cases writes : writes op req.instruction <;> by_cases fixed : r.isReadOnly <;>
          simp [old, writes, fixed, agree, agree.write]

end Hidden

/-! ## Registers that do not count -/

/-- The unit with its counters cleared. -/
def uncounted (u : SystemUnit) : SystemUnit :=
  { u with cycle := 0, instret := 0 }

/-- The unit after it is told of a trap, if there is one. -/
def notified (u : SystemUnit) (trap : Option Trap) : SystemUnit :=
  match trap with
  | some trap => u.trapTaken trap
  | none => u

variable {u v : SystemUnit}

theorem uncounted_eq_iff :
    u.uncounted = v.uncounted ↔ AgreesBut (fun r => r = .cycle ∨ r = .instret) u v := by
  simp only [uncounted, SystemUnit.ext_iff, AgreesBut]
  constructor
  · intro agree r visible
    cases r <;> simp_all [read]
  · intro agree
    exact ⟨agree .mstatus (by decide), agree .mtvec (by decide), agree .mscratch (by decide),
      agree .mepc (by decide), agree .mcause (by decide), trivial, trivial⟩

theorem uncounted_trapTaken (agree : u.uncounted = v.uncounted) (trap : Trap) :
    (u.trapTaken trap).uncounted = (v.trapTaken trap).uncounted := by
  simp only [uncounted, SystemUnit.ext_iff] at agree
  simp [uncounted, trapTaken, agree]

theorem uncounted_notified (agree : u.uncounted = v.uncounted) (trap : Option Trap) :
    (u.notified trap).uncounted = (v.notified trap).uncounted := by
  cases trap with
  | none => exact agree
  | some trap => exact uncounted_trapTaken agree trap

/-- Units that agree but for their counters treat an instruction alike that does not read one. -/
theorem execute_of_uncounted (agree : u.uncounted = v.uncounted) {req : Offload}
    (owned : req.instruction.slot? = some .cp0) (blind : ¬ req.instruction.readsCounter) :
    (u.execute req).1 = (v.execute req).1 ∧
      (u.execute req).2.uncounted = (v.execute req).2.uncounted := by
  have treated := (uncounted_eq_iff.mp agree).execute (by rintro r (rfl | rfl) <;> rfl) owned
    fun r counts reads => blind (req.instruction.readsCounter_iff.mpr ⟨r, counts, reads⟩)
  exact ⟨treated.1, uncounted_eq_iff.mpr treated.2⟩

/-! ## Registers that only instructions write -/

/-- The unit with its counters and trap registers cleared. -/
def plain (u : SystemUnit) : SystemUnit :=
  { u with mepc := 0, mcause := 0, cycle := 0, instret := 0 }

theorem plain_of_uncounted (agree : u.uncounted = v.uncounted) : u.plain = v.plain := by
  simp only [uncounted, SystemUnit.ext_iff] at agree
  simp [plain, agree]

@[simp]
theorem plain_notified (u : SystemUnit) (trap : Option Trap) :
    (u.notified trap).plain = u.plain := by
  cases trap <;> rfl

theorem plain_write (agree : u.plain = v.plain) (r : Csr) {a b : Word}
    (same : u.read r = v.read r → a = b) : (u.write r a).plain = (v.write r b).plain := by
  simp only [plain, SystemUnit.ext_iff] at agree
  simp only [SystemUnit.ext_iff]
  cases r <;> simp_all [plain, write, read]

/-- What an instruction makes of these registers does not depend on the others. -/
theorem plain_execute (agree : u.plain = v.plain) (req : Offload) :
    (u.execute req).2.plain = (v.execute req).2.plain := by
  unfold execute
  cases CsrOperation.ofFunct3? req.instruction.funct3.toNat with
  | none => exact agree
  | some op =>
    cases Csr.ofAddress? req.instruction.csr.toNat with
    | none => exact agree
    | some r =>
      have written := plain_write agree r (a := op.apply (u.read r) (source req))
        (b := op.apply (v.read r) (source req)) fun same => by rw [same]
      by_cases writes : writes op req.instruction <;> by_cases fixed : r.isReadOnly <;>
        simp [writes, fixed, agree, written]

/-- An instruction that raises the exception line changes nothing. -/
theorem execute_of_exception {req : Offload} (raised : (u.execute req).1.exception = true) :
    (u.execute req).2 = u := by
  revert raised
  unfold execute
  cases CsrOperation.ofFunct3? req.instruction.funct3.toNat with
  | none => exact fun _ => rfl
  | some op =>
    cases Csr.ofAddress? req.instruction.csr.toNat with
    | none => exact fun _ => rfl
    | some r =>
      by_cases writes : writes op req.instruction <;> by_cases fixed : r.isReadOnly <;>
        simp [writes, fixed]

theorem execute_ready (u : SystemUnit) (req : Offload) : (u.execute req).1.ready = true := by
  unfold execute
  cases CsrOperation.ofFunct3? req.instruction.funct3.toNat with
  | none => rfl
  | some op =>
    cases Csr.ofAddress? req.instruction.csr.toNat with
    | none => rfl
    | some r =>
      by_cases writes : writes op req.instruction <;> by_cases fixed : r.isReadOnly <;>
        simp [writes, fixed, raised]

end SystemUnit

namespace FixedLatencyUnit

@[simp]
theorem operation_respond (u : FixedLatencyUnit) (req : Option Offload) :
    (u.respond req).2.operation = u.operation := by
  unfold respond
  cases req with
  | none => rfl
  | some req => by_cases early : u.presentations req < u.latency <;> simp [early]

/-- A unit that is offered an operation gives no sign, or completes it. -/
theorem respond_cases (u : FixedLatencyUnit) (req : Offload) :
    (u.respond (some req)).1 = {} ∨
      (u.respond (some req)).1 = completion u.operation req := by
  unfold respond
  by_cases early : u.presentations req < u.latency <;> simp [early]

theorem completion_ready (operation : Operation) (req : Offload) :
    (completion operation req).ready = true := by
  unfold completion
  cases operation req <;> rfl

end FixedLatencyUnit

namespace ReferenceUnit

/-- The unit has a fixed latency and computes `operation`. -/
def Computes (unit : ReferenceUnit) (operation : Operation) : Prop :=
  ∃ u, unit = .inr u ∧ u.operation = operation

namespace Computes

variable {unit : ReferenceUnit} {operation : Operation}

theorem respond (h : Computes unit operation) (req : Option Offload) :
    Computes (Coprocessor.respond unit req).2 operation := by
  obtain ⟨u, rfl, same⟩ := h
  exact ⟨(u.respond req).2, rfl, (u.operation_respond req).trans same⟩

/-- The unit gives no sign until it completes its operation. -/
theorem answer (h : Computes unit operation) (req : Offload) :
    (Coprocessor.respond unit (some req)).1 = {} ∨
      (Coprocessor.respond unit (some req)).1 = FixedLatencyUnit.completion operation req := by
  obtain ⟨u, rfl, rfl⟩ := h
  exact u.respond_cases req

theorem retired (h : Computes unit operation) :
    Computes (Coprocessor.retired unit) operation := by
  obtain ⟨u, rfl, same⟩ := h
  exact ⟨u, rfl, same⟩

theorem trapTaken (h : Computes unit operation) (trap : Trap) :
    Computes (Coprocessor.trapTaken unit trap) operation := by
  obtain ⟨u, rfl, same⟩ := h
  exact ⟨u.trapTaken, rfl, same⟩

end Computes

end ReferenceUnit

namespace Bank

/-! ## Answers -/

/-- What the addressed unit answers once it is ready, and the system unit after that; `operation` is
what CP1 computes. -/
def answer (operation : Operation) (csrs : SystemUnit) (slot : Slot) (req : Offload) :
    CoprocessorResponse × SystemUnit :=
  match slot with
  | .cp0 => csrs.execute req
  | .cp1 => (FixedLatencyUnit.completion operation req, csrs)
  | .cp2 | .cp3 => (FixedLatencyUnit.completion (fun req => some req.a) req, csrs)

theorem answer_ready (operation : Operation) (csrs : SystemUnit) (slot : Slot) (req : Offload) :
    (answer operation csrs slot req).1.ready = true := by
  cases slot with
  | cp0 => exact csrs.execute_ready req
  | cp1 => exact FixedLatencyUnit.completion_ready ..
  | cp2 => rfl
  | cp3 => rfl

variable {operation : Operation}

theorem answer_of_exception {csrs : SystemUnit} {slot : Slot} {req : Offload}
    (raised : (answer operation csrs slot req).1.exception = true) :
    (answer operation csrs slot req).2 = csrs := by
  cases slot with
  | cp0 => exact SystemUnit.execute_of_exception raised
  | _ => rfl

/-- Only the system unit's instructions change the system unit. -/
theorem answer_of_ne {slot : Slot} (other : slot ≠ .cp0) (csrs : SystemUnit) (req : Offload) :
    (answer operation csrs slot req).2 = csrs := by
  cases slot with
  | cp0 => contradiction
  | _ => rfl

theorem answer_of_uncounted (operation : Operation) {u v : SystemUnit}
    (agree : u.uncounted = v.uncounted) {slot : Slot} (req : Offload)
    (owned : req.instruction.slot? = some slot) (blind : ¬ req.instruction.readsCounter) :
    (answer operation u slot req).1 = (answer operation v slot req).1 ∧
      (answer operation u slot req).2.uncounted = (answer operation v slot req).2.uncounted := by
  cases slot with
  | cp0 => exact SystemUnit.execute_of_uncounted agree owned blind
  | _ => exact ⟨rfl, agree⟩

/-! ## Reference banks -/

/-- The bank is made of the reference units, CP1 computes `operation`, and the system unit is in the
state `csrs`. -/
structure IsReference (bank : Bank ReferenceUnit) (operation : Operation) (csrs : SystemUnit) :
    Prop where
  cp0 : bank.cp0 = .inl csrs
  cp1 : ReferenceUnit.Computes bank.cp1 operation
  cp2 : ReferenceUnit.Computes bank.cp2 fun req => some req.a
  cp3 : ReferenceUnit.Computes bank.cp3 fun req => some req.a

theorem isReference_reference (latency : PerSlot Nat) (operation : Operation) :
    (reference latency operation).IsReference operation {} where
  cp0 := rfl
  cp1 := ⟨_, rfl, rfl⟩
  cp2 := ⟨_, rfl, rfl⟩
  cp3 := ⟨_, rfl, rfl⟩

namespace IsReference

variable {bank : Bank ReferenceUnit} {csrs : SystemUnit}

theorem cycle (h : bank.IsReference operation csrs) (select : Option Slot)
    (offload : Option Offload) :
    (bank.cycle select offload).2.IsReference operation
      (csrs.respond (offered select offload .cp0)).2 where
  cp0 := by
    change (Coprocessor.respond bank.cp0 _).2 = _
    rw [h.cp0]
    rfl
  cp1 := h.cp1.respond _
  cp2 := h.cp2.respond _
  cp3 := h.cp3.respond _

/-- A cycle in which nothing is offered only moves the cycle counter. -/
theorem cycle_none (h : bank.IsReference operation csrs) :
    (bank.cycle none none).2.IsReference operation { csrs with cycle := csrs.cycle + 1 } :=
  h.cycle none none

/-- An offered operation is waited for, or answered. -/
theorem cycle_some (h : bank.IsReference operation csrs) (slot : Slot) (req : Offload) :
    let r := bank.cycle (some slot) (some req)
    let clocked := { csrs with cycle := csrs.cycle + 1 }
    (r.1 = {} ∧ r.2.IsReference operation clocked) ∨
      (r.1 = (answer operation clocked slot req).1 ∧
        r.2.IsReference operation (answer operation clocked slot req).2) := by
  intro r clocked
  have units := h.cycle (some slot) (some req)
  have fixed {unit : ReferenceUnit} {computed : Operation}
      (computes : ReferenceUnit.Computes unit computed)
      (mine : r.1 = (Coprocessor.respond unit (some req)).1)
      (rest : r.2.IsReference operation clocked) :
      (r.1 = {} ∧ r.2.IsReference operation clocked) ∨
        (r.1 = FixedLatencyUnit.completion computed req ∧
          r.2.IsReference operation clocked) := by
    rw [mine]
    rcases computes.answer req with wait | done
    · exact .inl ⟨wait, rest⟩
    · exact .inr ⟨done, rest⟩
  cases slot with
  | cp0 =>
    refine .inr ⟨?_, units⟩
    change (Coprocessor.respond bank.cp0 (some req)).1 = _
    rw [h.cp0]
    rfl
  | cp1 => exact fixed h.cp1 rfl units
  | cp2 => exact fixed h.cp2 rfl units
  | cp3 => exact fixed h.cp3 rfl units

theorem retired (h : bank.IsReference operation csrs) :
    bank.retired.IsReference operation csrs.retired where
  cp0 := by
    change Coprocessor.retired bank.cp0 = _
    rw [h.cp0]
    rfl
  cp1 := h.cp1.retired
  cp2 := h.cp2.retired
  cp3 := h.cp3.retired

theorem trapTaken (h : bank.IsReference operation csrs) (trap : Trap) :
    (bank.trapTaken trap).IsReference operation (csrs.trapTaken trap) where
  cp0 := by
    change Coprocessor.trapTaken bank.cp0 trap = _
    rw [h.cp0]
    rfl
  cp1 := h.cp1.trapTaken trap
  cp2 := h.cp2.trapTaken trap
  cp3 := h.cp3.trapTaken trap

end IsReference

end Bank

end FiveStage
