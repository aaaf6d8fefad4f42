import FiveStage.Coprocessor.SystemUnit
import FiveStage.Proofs.Coprocessor.Stimulus

/-!
# Control and status register instructions

What the system unit does with an instruction, read off the rules for the six instructions that
access control and status registers: which words are refused, what the others read, and what they
leave in the register. The unit answers at once, and an instruction that it refuses changes nothing.
Two registers count, whatever is executed meanwhile.
-/

namespace FiveStage

/-! ## The rules -/

namespace Instruction

/-- Whether the instruction writes: a plain write does, and setting or clearing bits does unless the
register field is zero. -/
def writesCsr (inst : Instruction) : Prop :=
  inst.funct3.toNat = 1 ∨ inst.funct3.toNat = 5 ∨ inst.rs1.toNat ≠ 0

/-- Whether the word is refused: it names no operation or no register, or would write a register
whose address has its two top bits set. -/
def isRefused (inst : Instruction) : Prop :=
  inst.funct3.toNat = 0 ∨ inst.funct3.toNat = 4 ∨
    inst.csr.toNat ∉ [0x300, 0x305, 0x340, 0x341, 0x342, 0xC00, 0xC02] ∨
    (inst.writesCsr ∧ inst.csr.toNat / 0x400 = 3)

instance (inst : Instruction) : Decidable inst.writesCsr :=
  inferInstanceAs (Decidable (_ ∨ _ ∨ _))

end Instruction

namespace Offload

/-- The operand of the instruction: the register operand, or in the immediate forms the number in
the register field, extended with zeros. -/
def csrSource (req : Offload) : Word :=
  if req.instruction.funct3.toNat < 4 then req.a else BitVec.ofNat 32 req.instruction.rs1.toNat

/-- What the instruction leaves in a register that it writes. -/
def csrValue (req : Offload) (old : Word) : Word :=
  if req.instruction.funct3.toNat % 4 = 1 then req.csrSource
  else if req.instruction.funct3.toNat % 4 = 2 then old ||| req.csrSource
  else old &&& ~~~req.csrSource

end Offload

namespace SystemUnit

/-- The unit when its cycle counter has moved. -/
def clocked (u : SystemUnit) : SystemUnit :=
  { u with cycle := u.cycle + 1 }

/-- What the unit answers to an instruction, and the registers afterwards. -/
structure Executes (u : SystemUnit) (req : Offload) (answer : CoprocessorResponse)
    (next : SystemUnit) : Prop where
  ready : answer.ready = true
  exception : answer.exception = true ↔ req.instruction.isRefused
  /-- An instruction that is refused has no result, and only the cycle counter moves. -/
  refused : answer.exception = true → answer.data = 0 ∧ ∀ t, next.read t = u.clocked.read t
  /-- Any other reads the register that it names, and writes that register or none. -/
  done : answer.exception = false → ∃ r : Csr, r.address = req.instruction.csr.toNat ∧
    answer.data = u.clocked.read r ∧
    ∀ t, next.read t =
      if t = r ∧ req.instruction.writesCsr then req.csrValue (u.clocked.read t)
      else u.clocked.read t
  instret : next.instret = u.instret

end SystemUnit

/-! ## Decoding -/

namespace CsrOperation

/-- Two values of the field have no operation. -/
theorem ofFunct3?_eq_none_iff (field : BitVec 3) :
    ofFunct3? field.toNat = none ↔ field.toNat = 0 ∨ field.toNat = 4 := by
  revert field
  decide

/-- A plain write has one of two values. -/
theorem eq_write_iff {field : Nat} {op : CsrOperation} (code : ofFunct3? field = some op) :
    op = write ↔ field = 1 ∨ field = 5 := by
  unfold ofFunct3? at code
  split at code <;> cases code <;> decide

/-- The operation is in the two low bits of the field. -/
theorem apply_of_code {field : Nat} {op : CsrOperation} (code : ofFunct3? field = some op)
    (old source : Word) :
    op.apply old source =
      if field % 4 = 1 then source
      else if field % 4 = 2 then old ||| source
      else old &&& ~~~source := by
  unfold ofFunct3? at code
  split at code <;> cases code <;> rfl

end CsrOperation

namespace Csr

theorem ofAddress?_eq_some_iff {address : Nat} {r : Csr} :
    ofAddress? address = some r ↔ r.address = address := by
  constructor
  · intro found
    unfold ofAddress? at found
    split at found <;> cases found <;> rfl
  · rintro rfl
    exact r.ofAddress?_address

/-- An address without a register is none of the seven. -/
theorem ofAddress?_eq_none_iff {address : Nat} :
    ofAddress? address = none ↔
      address ∉ [0x300, 0x305, 0x340, 0x341, 0x342, 0xC00, 0xC02] := by
  constructor
  · intro missing member
    simp only [List.mem_cons, List.not_mem_nil, or_false] at member
    rcases member with rfl | rfl | rfl | rfl | rfl | rfl | rfl <;> cases missing
  · intro none
    cases found : ofAddress? address with
    | none => rfl
    | some r =>
      obtain rfl := ofAddress?_eq_some_iff.mp found
      cases r <;> simp [Csr.address] at none

theorem isReadOnly_iff (r : Csr) : r.isReadOnly = true ↔ r.address / 0x400 = 3 := by
  cases r <;> decide

end Csr

/-! ## One instruction -/

namespace SystemUnit

/-- The number in the register field is extended with zeros. -/
theorem source_eq (req : Offload) : source req = req.csrSource := by
  unfold source Offload.csrSource
  congr 1
  exact BitVec.eq_of_toNat_eq (by simp)

theorem writes_iff {op : CsrOperation} {inst : Instruction}
    (code : CsrOperation.ofFunct3? inst.funct3.toNat = some op) :
    writes op inst = true ↔ inst.writesCsr := by
  unfold writes Instruction.writesCsr
  rw [Bool.or_eq_true, beq_iff_eq, bne_iff_ne, CsrOperation.eq_write_iff code, or_assoc]
  simp [← BitVec.toNat_inj]

/-- What an instruction does that names an operation and a register. -/
theorem execute_of_found (u : SystemUnit) {req : Offload} {op : CsrOperation} {r : Csr}
    (code : CsrOperation.ofFunct3? req.instruction.funct3.toNat = some op)
    (found : Csr.ofAddress? req.instruction.csr.toNat = some r) :
    u.execute req =
      if writes op req.instruction then
        if r.isReadOnly then (raised, u)
        else ({ ready := true, data := u.read r }, u.write r (op.apply (u.read r) (source req)))
      else ({ ready := true, data := u.read r }, u) := by
  unfold execute
  rw [code, found]

/-- No instruction changes a register whose address is read-only. -/
theorem read_execute_of_isReadOnly (u : SystemUnit) (req : Offload) {t : Csr}
    (fixed : t.isReadOnly = true) : (u.execute req).2.read t = u.read t := by
  cases code : CsrOperation.ofFunct3? req.instruction.funct3.toNat with
  | none => simp [execute, code]
  | some op =>
    cases found : Csr.ofAddress? req.instruction.csr.toNat with
    | none => simp [execute, code, found]
    | some r =>
      rw [u.execute_of_found code found]
      by_cases written : writes op req.instruction = true
      · rw [if_pos written]
        by_cases guarded : r.isReadOnly = true
        · rw [if_pos guarded]
        · rw [if_neg guarded, read_write, if_neg]
          rintro rfl
          exact guarded fixed
      · rw [if_neg written]

/-- What a word that names an operation and a register is refused for. -/
theorem isRefused_iff {inst : Instruction} {op : CsrOperation} {r : Csr}
    (code : CsrOperation.ofFunct3? inst.funct3.toNat = some op)
    (found : Csr.ofAddress? inst.csr.toNat = some r) :
    inst.isRefused ↔ inst.writesCsr ∧ r.isReadOnly = true := by
  have operation : ¬ (inst.funct3.toNat = 0 ∨ inst.funct3.toNat = 4) := by
    rw [← CsrOperation.ofFunct3?_eq_none_iff, code]
    exact nofun
  have register : ¬ inst.csr.toNat ∉ [0x300, 0x305, 0x340, 0x341, 0x342, 0xC00, 0xC02] := by
    rw [← Csr.ofAddress?_eq_none_iff, found]
    exact nofun
  rw [r.isReadOnly_iff, Csr.ofAddress?_eq_some_iff.mp found]
  unfold Instruction.isRefused
  rw [← or_assoc, or_iff_right operation, or_iff_right register]

section Outcomes

variable {u : SystemUnit} {req : Offload}

/-- The unit raises the exception line for what is refused. -/
theorem Executes.of_refused (refused : req.instruction.isRefused)
    (outcome : u.clocked.execute req = (raised, u.clocked)) :
    u.Executes req (u.respond (some req)).1 (u.respond (some req)).2 := by
  change u.Executes req (u.clocked.execute req).1 (u.clocked.execute req).2
  rw [outcome]
  exact
    { ready := rfl
      exception := iff_of_true rfl refused
      refused := fun _ => ⟨rfl, fun _ => rfl⟩
      done := fun quiet => absurd quiet nofun
      instret := rfl }

/-- The unit answers with what it read, and leaves what the rules say. -/
theorem Executes.of_done {r : Csr} {next : SystemUnit} (accepted : ¬ req.instruction.isRefused)
    (named : r.address = req.instruction.csr.toNat)
    (outcome : u.clocked.execute req = ({ ready := true, data := u.clocked.read r }, next))
    (left : ∀ t, next.read t =
      if t = r ∧ req.instruction.writesCsr then req.csrValue (u.clocked.read t)
      else u.clocked.read t) :
    u.Executes req (u.respond (some req)).1 (u.respond (some req)).2 := by
  have kept := u.clocked.read_execute_of_isReadOnly req (t := .instret) rfl
  change u.Executes req (u.clocked.execute req).1 (u.clocked.execute req).2
  rw [outcome] at kept ⊢
  exact
    { ready := rfl
      exception := iff_of_false nofun accepted
      refused := fun raised => absurd raised nofun
      done := fun _ => ⟨r, named, rfl, left⟩
      instret := kept }

end Outcomes

/-- The unit executes every instruction by the rules. -/
theorem executes (u : SystemUnit) (req : Offload) :
    u.Executes req (u.respond (some req)).1 (u.respond (some req)).2 := by
  cases code : CsrOperation.ofFunct3? req.instruction.funct3.toNat with
  | none =>
    refine .of_refused ?_ (by simp [execute, code])
    rcases (CsrOperation.ofFunct3?_eq_none_iff _).mp code with zero | four
    · exact .inl zero
    · exact .inr (.inl four)
  | some op =>
    cases found : Csr.ofAddress? req.instruction.csr.toNat with
    | none =>
      refine .of_refused ?_ (by simp [execute, code, found])
      exact .inr (.inr (.inl (Csr.ofAddress?_eq_none_iff.mp found)))
    | some r =>
      have outcome := u.clocked.execute_of_found code found
      have named : r.address = req.instruction.csr.toNat := Csr.ofAddress?_eq_some_iff.mp found
      by_cases written : req.instruction.writesCsr
      · rw [if_pos ((writes_iff code).mpr written)] at outcome
        by_cases fixed : r.isReadOnly = true
        · rw [if_pos fixed] at outcome
          exact .of_refused ((isRefused_iff code found).mpr ⟨written, fixed⟩) outcome
        · rw [if_neg fixed] at outcome
          refine .of_done (fun refused => fixed ((isRefused_iff code found).mp refused).2) named
            outcome fun t => ?_
          rw [read_write]
          by_cases same : t = r
          · rw [if_pos same.symm, if_pos ⟨same, written⟩, same, CsrOperation.apply_of_code code]
            rw [source_eq]
            rfl
          · rw [if_neg (Ne.symm same), if_neg fun both => same both.1]
      · rw [if_neg (mt (writes_iff code).mp written)] at outcome
        refine .of_done (fun refused => written ((isRefused_iff code found).mp refused).1) named
          outcome fun t => ?_
        rw [if_neg fun both => written both.2]

/-! ## Many events -/

theorem cycle_step (u : SystemUnit) (stimulus : Stimulus) :
    (Coprocessor.step u stimulus).cycle =
      if stimulus.isClocked then u.cycle + 1 else u.cycle := by
  cases stimulus with
  | clocked offload =>
    cases offload with
    | none => rfl
    | some req => exact u.clocked.read_execute_of_isReadOnly req (t := .cycle) rfl
  | retired => rfl
  | trapTaken trap => rfl

theorem instret_step (u : SystemUnit) (stimulus : Stimulus) :
    (Coprocessor.step u stimulus).instret =
      if stimulus.isRetired then u.instret + 1 else u.instret := by
  cases stimulus with
  | clocked offload =>
    cases offload with
    | none => rfl
    | some req => exact u.clocked.read_execute_of_isReadOnly req (t := .instret) rfl
  | retired => rfl
  | trapTaken trap => rfl

/-- The cycle counter counts the clocks. -/
theorem cycle_after (u : SystemUnit) (history : List Stimulus) :
    (Coprocessor.after u history).cycle =
      u.cycle + BitVec.ofNat 32 (history.countP (·.isClocked)) :=
  Coprocessor.counter_after cycle _ cycle_step u history

/-- The other counter counts the retired instructions. -/
theorem instret_after (u : SystemUnit) (history : List Stimulus) :
    (Coprocessor.after u history).instret =
      u.instret + BitVec.ofNat 32 (history.countP (·.isRetired)) :=
  Coprocessor.counter_after instret _ instret_step u history

/-- The unit keeps the rules for control and status registers. It executes each instruction in the
cycle in which it is offered: it refuses a word without an operation or a register, or with a write
to a read-only address, and then has no result and changes nothing; otherwise it answers with what
was in the register and leaves there what the operation makes of it. Through every history, the
counters hold the number of cycles and of retired instructions. -/
theorem meets_zicsr (u : SystemUnit) :
    (∀ req, u.Executes req (u.respond (some req)).1 (u.respond (some req)).2) ∧
      ∀ history,
        (Coprocessor.after u history).cycle =
            u.cycle + BitVec.ofNat 32 (history.countP (·.isClocked)) ∧
          (Coprocessor.after u history).instret =
            u.instret + BitVec.ofNat 32 (history.countP (·.isRetired)) :=
  ⟨u.executes, fun history => ⟨u.cycle_after history, u.instret_after history⟩⟩

end SystemUnit

end FiveStage
