import FiveStage.Proofs.Coprocessor.ReferenceBank
import FiveStage.Proofs.Instruction.AssemblyLine
import FiveStage.Proofs.Instruction.RoundTrip

/-!
# Assembly text and behaviour

The text of a word tells what the pipeline does with it. Decode reads the fields of a word apart
from its text, and it leaves bits alone that no instruction has a use for; words with the same text
differ in such bits only.
-/

namespace FiveStage

/-! ## Behaviour -/

/-- What the datapath does with one instruction. -/
structure DatapathEffect where
  /-- What the integer unit computes. -/
  sum : Word
  /-- What execute hands on. -/
  result : Word
  /-- Whether and how it leaves the straight line. -/
  select : PcSource
  target : Word
  request : Option MemoryRequest
  /-- The value that it leaves if its access reads a given word. -/
  value : Word → Word

/-- The effect of an instruction that decode has issued. -/
def IdEx.datapathEffect (e : IdEx) : DatapathEffect where
  sum := e.sum
  result := e.integerResult.result
  select := e.select
  target := e.target
  request := e.integerResult.request?
  value data := (e.integerResult.accessed data).value

/-- What the pipeline does with an instruction word. -/
structure Behaviour where
  control : Control
  slot : Option Slot
  rd : BitVec 5
  sources : Operands Nat
  /-- The effect at an address with given values of the two operands. -/
  effect : Word → Word → Word → DatapathEffect
  /-- The answer of the unit that it belongs to, with the system unit after that. -/
  answer : SystemUnit → Word → Word → Option (CoprocessorResponse × SystemUnit)

namespace Instruction

/-- The entry that decode issues for the word at `pc` if the operands have the given values. -/
def issued (inst : Instruction) (pc a b : Word) : IdEx :=
  { ({ pc, inst } : IfId).entry fun _ => 0 with rv1 := a, rv2 := b }

def behaviour (inst : Instruction) : Behaviour where
  control := Control.decode inst
  slot := inst.slot?
  rd := inst.rd
  sources := inst.sources (Control.decode inst)
  effect pc a b := (inst.issued pc a b).datapathEffect
  answer csrs a b := inst.slot?.map fun slot =>
    Bank.answer singlePrecision csrs slot { instruction := inst, a, b }

/-- The words differ only in bits that their instruction has no use for. It is one that neither
accesses memory nor branches, and that goes on straight unless it is `jalr`. -/
structure Alike (inst inst' : Instruction) : Prop where
  control : Control.decode inst = Control.decode inst'
  plain : (Control.decode inst).memRead = false ∧ (Control.decode inst).memWrite = false ∧
    (Control.decode inst).branch = false ∧ (Control.decode inst).jump = false
  slot : inst.slot? = inst'.slot?
  rd : inst.rd = inst'.rd
  sources : inst.sources (Control.decode inst) = inst'.sources (Control.decode inst)
  operand (a : Word) :
    (Control.decode inst).aluOp.eval a (inst.immediate (Control.decode inst).format) =
      (Control.decode inst).aluOp.eval a (inst'.immediate (Control.decode inst).format)
  base : (Control.decode inst).jalr = true → inst.immediateI = inst'.immediateI
  answer (csrs : SystemUnit) (a b : Word) : ∀ slot ∈ inst.slot?,
    Bank.answer singlePrecision csrs slot { instruction := inst, a, b } =
      Bank.answer singlePrecision csrs slot { instruction := inst', a, b }

namespace Alike

variable {inst inst' : Instruction}

theorem sum (h : inst.Alike inst') (pc a b : Word) :
    (inst.issued pc a b).sum = (inst'.issued pc a b).sum := by
  unfold IdEx.sum issued IfId.entry
  dsimp only
  rw [← h.control]
  by_cases immediate : (Control.decode inst).aluSrc = true
  · rw [if_pos immediate, if_pos immediate]
    exact h.operand _
  · rw [if_neg immediate, if_neg immediate]

theorem select (h : inst.Alike inst') (pc a b : Word) :
    (inst.issued pc a b).select = (inst'.issued pc a b).select := by
  obtain ⟨-, -, straight, -⟩ := h.plain
  unfold IdEx.select issued IfId.entry
  dsimp only
  rw [← h.control, straight, Bool.false_and, Bool.false_and]

theorem target (h : inst.Alike inst') (pc a b : Word) :
    (inst.issued pc a b).target = (inst'.issued pc a b).target := by
  obtain ⟨-, -, straight, still⟩ := h.plain
  have select : (inst.issued pc a b).select =
      if (Control.decode inst).jalr then .jalr else .sequential := by
    unfold IdEx.select issued IfId.entry PcSource.ofControl
    dsimp only
    rw [straight, still]
    rfl
  unfold IdEx.target
  rw [← h.select, select]
  by_cases indirect : (Control.decode inst).jalr = true
  · rw [if_pos indirect]
    show (a + inst.immediateI) &&& ~~~1#32 = (a + inst'.immediateI) &&& ~~~1#32
    rw [h.base indirect]
  · rw [if_neg indirect]
    rfl

/-- Only the sum can tell the entries of alike words apart. -/
theorem result (h : inst.Alike inst') (pc a b : Word) :
    (inst.issued pc a b).integerResult.result = (inst'.issued pc a b).integerResult.result := by
  rw [IdEx.integerResult_result, IdEx.integerResult_result, h.sum]
  show (if (Control.decode inst).jump || (Control.decode inst).jalr then _ else _) =
    if (Control.decode inst').jump || (Control.decode inst').jalr then _ else _
  rw [h.control]
  rfl

/-- Neither word accesses memory. -/
theorem quiet (h : inst.Alike inst') :
    ((Control.decode inst).memRead = false ∧ (Control.decode inst).memWrite = false) ∧
      (Control.decode inst').memRead = false ∧ (Control.decode inst').memWrite = false := by
  obtain ⟨load, store, -, -⟩ := h.plain
  rw [← h.control]
  exact ⟨⟨load, store⟩, load, store⟩

theorem request? (h : inst.Alike inst') (pc a b : Word) :
    (inst.issued pc a b).integerResult.request? =
      (inst'.issued pc a b).integerResult.request? := by
  have none {e : ExMem} (quiet : e.ctrl.memRead = false ∧ e.ctrl.memWrite = false) :
      e.request? = none := by
    simp [ExMem.request?, quiet.1, quiet.2]
  rw [none h.quiet.1, none h.quiet.2]

theorem value (h : inst.Alike inst') (pc a b data : Word) :
    ((inst.issued pc a b).integerResult.accessed data).value =
      ((inst'.issued pc a b).integerResult.accessed data).value := by
  have kept {e : ExMem} (quiet : e.ctrl.memRead = false ∧ e.ctrl.memWrite = false) :
      (e.accessed data).value = e.result := by
    simp [ExMem.accessed, ExMem.complete, quiet.1]
  rw [kept h.quiet.1, kept h.quiet.2, h.result]

theorem behaviour (h : inst.Alike inst') : inst.behaviour = inst'.behaviour := by
  have effect (pc a b : Word) :
      (inst.issued pc a b).datapathEffect = (inst'.issued pc a b).datapathEffect := by
    unfold IdEx.datapathEffect
    rw [h.sum, h.result, h.select, h.target, h.request?]
    congr 1
    funext data
    exact h.value pc a b data
  have answers (csrs : SystemUnit) (a b : Word) :
      (inst.slot?.map fun slot =>
          Bank.answer singlePrecision csrs slot { instruction := inst, a, b }) =
        inst'.slot?.map fun slot =>
          Bank.answer singlePrecision csrs slot { instruction := inst', a, b } := by
    rw [← h.slot]
    exact Option.map_congr (h.answer csrs a b)
  unfold Instruction.behaviour
  simp only [effect, answers]
  rw [← h.control, ← h.slot, h.rd, h.sources]

end Alike

/-! ## Mnemonics -/

section Mnemonics

variable (inst : Instruction)

theorem opMnemonic_cases :
    ∃ op ∈ [Computation.add, .sub, .sll, .slt, .sltu, .xor, .srl, .sra, .or, .and],
      Control.computeOp inst.funct3 inst.alternate = op.aluOp ∧
        inst.opMnemonic = (Mnemonic.compute op).text := by
  unfold opMnemonic
  generalize inst.funct3 = funct3
  generalize inst.alternate = alternate
  revert funct3 alternate
  decide

theorem opImmMnemonic_cases :
    (∃ kind ∈ [ImmediateKind.addi, .slti, .sltiu, .xori, .ori, .andi],
      inst.funct3 = kind.computation.funct3 ∧ ¬ (inst.funct3 == 1 || inst.funct3 == 5) = true ∧
        inst.opImmMnemonic = (Mnemonic.immediate kind).text) ∨
    ∃ kind ∈ [ShiftKind.slli, .srli, .srai],
      (inst.funct3 == 1 || inst.funct3 == 5) = true ∧
        Control.computeOp inst.funct3 (inst.alternate && inst.funct3 == 5) =
          kind.computation.aluOp ∧
        inst.opImmMnemonic = (Mnemonic.shift kind).text := by
  unfold opImmMnemonic
  generalize inst.funct3 = funct3
  generalize inst.alternate = alternate
  revert funct3 alternate
  decide

theorem loadMnemonic_cases :
    (∃ kind ∈ [LoadKind.lb, .lh, .lw, .lbu, .lhu], BitVec.ofNat 3 kind.code = inst.funct3 ∧
      inst.loadMnemonic = (Mnemonic.load kind).text) ∨ inst.loadMnemonic = "l??" := by
  unfold loadMnemonic
  generalize inst.funct3 = funct3
  revert funct3
  decide

theorem storeMnemonic_cases :
    (∃ width ∈ [Lanes.Width.byte, .half, .word], BitVec.ofNat 3 width.storeCode = inst.funct3 ∧
      inst.storeMnemonic = (Mnemonic.store width).text) ∨ inst.storeMnemonic = "s??" := by
  unfold storeMnemonic
  generalize inst.funct3 = funct3
  revert funct3
  decide

theorem branchMnemonic_cases :
    (∃ kind ∈ [BranchKind.beq, .bne, .blt, .bge, .bltu, .bgeu], kind.funct3 = inst.funct3 ∧
      inst.branchMnemonic = (Mnemonic.branch kind).text) ∨ inst.branchMnemonic = "b??" := by
  unfold branchMnemonic
  generalize inst.funct3 = funct3
  revert funct3
  decide

theorem opFpMnemonic_cases :
    (∃ op ∈ [FloatOperation.add, .sub, .mul, .div], op.funct7 = inst.funct7 ∧
      inst.opFpMnemonic = (Mnemonic.float op).text) ∨ inst.opFpMnemonic = "fp.??" := by
  unfold opFpMnemonic
  generalize inst.funct7 = funct7
  revert funct7
  decide

theorem csrMnemonic?_cases :
    (∃ op ∈ [CsrOperation.write, .set, .clear], ∃ immediate : Bool,
      op.funct3 immediate = inst.funct3 ∧ (inst.funct3.toNat < 4 ↔ immediate = false) ∧
        inst.csrMnemonic? = some (Mnemonic.csr op immediate).text) ∨
    inst.csrMnemonic? = none := by
  unfold csrMnemonic?
  generalize inst.funct3 = funct3
  revert funct3
  decide

end Mnemonics

/-! ## Words with a line -/

/-- The text leaves part of the operation open. -/
def Unsettled (text : String) : Prop :=
  ['?', '?'] <:+: text.toList

instance (text : String) : Decidable (Unsettled text) :=
  inferInstanceAs (Decidable (_ <:+: _))

theorem unsettled_line {mnemonic : String} (unsettled : Unsettled mnemonic)
    (operands : List String) : Unsettled (line mnemonic operands) := by
  unfold Unsettled line
  rw [String.toList_append, String.toList_append, List.append_assoc]
  exact unsettled.trans (List.infix_append_left ..)

/-- The line has the text of the word and stands for a word that behaves alike. -/
structure Reads (inst : Instruction) (l : Line) : Prop where
  text : inst.assembly = l.text
  behaviour : inst.behaviour = l.encode.behaviour

variable {inst : Instruction}

theorem Reads.of_encode {l : Line} (text : inst.assembly = l.text) (word : l.encode = inst) :
    inst.Reads l :=
  ⟨text, by rw [word]⟩

theorem Reads.of_alike {l : Line} (text : inst.assembly = l.text) (alike : inst.Alike l.encode) :
    inst.Reads l :=
  ⟨text, alike.behaviour⟩

/-- A word that decode treats like an instruction of the base set, but which may have other bits
where that one has none. -/
theorem Alike.of_base {i : Rv32i} (control : Control.decode inst = i.control)
    (plain : i.control.memRead = false ∧ i.control.memWrite = false ∧ i.control.branch = false ∧
      i.control.jump = false)
    (slot : inst.slot? = none) (rd : inst.rd = i.encode.rd)
    (sources : inst.sources i.control = i.sources)
    (operand : ∀ a, i.control.aluOp.eval a (inst.immediate i.control.format) =
      i.control.aluOp.eval a (i.encode.immediate i.control.format))
    (base : i.control.jalr = true → inst.immediateI = i.encode.immediateI) :
    inst.Alike i.encode where
  control := control.trans i.decode_encode.symm
  plain := by rwa [control]
  slot := slot.trans i.slot?_encode.symm
  rd := rd
  sources := by rw [control, sources, i.sources_encode]
  operand a := by rw [control, operand a]
  base := by rwa [control]
  answer csrs a b slot' owned := by
    rw [slot] at owned
    cases owned

theorem opcode_of_major {o : Opcode} (major : inst.major? = some o) : inst.opcode = o.bits :=
  Opcode.ofBits?_eq_some_iff.mp major

/-! ### Upper immediates -/

theorem toNat_upper (inst : Instruction) :
    (inst.immediateU >>> 12).toNat = (inst.extractLsb' 12 20).toNat := by
  have bounded := (inst.extractLsb' 12 20).isLt
  show ((inst.extractLsb' 12 20 ++ 0#12) >>> 12).toNat = _
  rw [append_zero_eq, BitVec.toNat_ushiftRight, BitVec.toNat_ofNat, Nat.shiftRight_eq_div_pow]
  omega

theorem reads_lui (major : inst.major? = some .lui) : ∃ l, inst.Reads l := by
  have opcode := opcode_of_major major
  refine ⟨.base (.lui inst.rd (inst.extractLsb' 12 20)), .of_encode ?_ ?_⟩
  · unfold assembly
    rw [major]
    dsimp only
    rw [inst.toNat_upper]
    rfl
  · show encodeU (inst.extractLsb' 12 20) inst.rd Opcode.lui.bits = inst
    rw [← opcode, encodeU_fields]

theorem reads_auipc (major : inst.major? = some .auipc) : ∃ l, inst.Reads l := by
  have opcode := opcode_of_major major
  refine ⟨.base (.auipc inst.rd (inst.extractLsb' 12 20)), .of_encode ?_ ?_⟩
  · unfold assembly
    rw [major]
    dsimp only
    rw [inst.toNat_upper]
    rfl
  · show encodeU (inst.extractLsb' 12 20) inst.rd Opcode.auipc.bits = inst
    rw [← opcode, encodeU_fields]

/-! ### Branches and jumps -/

theorem reads_jal (major : inst.major? = some .jal) : ∃ l, inst.Reads l := by
  have opcode := opcode_of_major major
  refine ⟨.base (.jal inst.rd inst.offsetJ), .of_encode ?_ ?_⟩
  · unfold assembly
    rw [major]
    dsimp only
    rw [inst.toInt_immediateJ]
    rfl
  · show encodeJ inst.offsetJ inst.rd Opcode.jal.bits = inst
    rw [← opcode, encodeJ_fields]

theorem reads_branch (major : inst.major? = some .branch) (settled : ¬ Unsettled inst.assembly) :
    ∃ l, inst.Reads l := by
  have opcode := opcode_of_major major
  have text : inst.assembly = line inst.branchMnemonic
      [fieldName inst.rs1, fieldName inst.rs2, toString (2 * inst.offsetB.toInt)] := by
    unfold assembly
    rw [major]
    dsimp only
    rw [inst.toInt_immediateB]
  rcases inst.branchMnemonic_cases with ⟨kind, -, code, name⟩ | opened
  · refine ⟨.base (.branch kind inst.rs1 inst.rs2 inst.offsetB), .of_encode ?_ ?_⟩
    · rw [text, name]
      rfl
    · show encodeB inst.offsetB inst.rs2 inst.rs1 kind.funct3 Opcode.branch.bits = inst
      rw [code, ← opcode, encodeB_fields]
  · rw [text, opened] at settled
    exact absurd (unsettled_line (by decide) _) settled

/-- The `funct3` field of `jalr` does not matter. -/
theorem alike_jalr (major : inst.major? = some .jalr) :
    inst.Alike (Rv32i.jalr inst.rd inst.rs1 inst.csr).encode := by
  have control : Control.decode inst = (Rv32i.jalr inst.rd inst.rs1 inst.csr).control := by
    unfold Control.decode
    rw [major]
    rfl
  have immediate : inst.immediateI = (Rv32i.jalr inst.rd inst.rs1 inst.csr).encode.immediateI :=
    (immediateI_encodeI ..).symm
  refine .of_base control ⟨rfl, rfl, rfl, rfl⟩ ?_ (rd_pack ..).symm rfl ?_ fun _ => immediate
  · unfold slot?
    rw [major]
  · intro a
    exact congrArg (AluOp.eval _ a) immediate

theorem reads_jalr (major : inst.major? = some .jalr) : ∃ l, inst.Reads l := by
  refine ⟨.base (.jalr inst.rd inst.rs1 inst.csr), .of_alike ?_ (alike_jalr major)⟩
  unfold assembly
  rw [major]
  rfl

/-! ### Accesses to memory -/

theorem reads_load (major : inst.major? = some .load) (settled : ¬ Unsettled inst.assembly) :
    ∃ l, inst.Reads l := by
  have opcode := opcode_of_major major
  have text : inst.assembly =
      line inst.loadMnemonic [fieldName inst.rd, addressOperand inst.immediateI inst.rs1] := by
    unfold assembly
    rw [major]
  rcases inst.loadMnemonic_cases with ⟨kind, -, code, name⟩ | opened
  · refine ⟨.base (.load kind inst.rd inst.rs1 inst.csr), .of_encode ?_ ?_⟩
    · rw [text, name]
      rfl
    · show encodeI inst.csr inst.rs1 (BitVec.ofNat 3 kind.code) inst.rd Opcode.load.bits = inst
      rw [code, ← opcode, encodeI_fields]
  · rw [text, opened] at settled
    exact absurd (unsettled_line (by decide) _) settled

theorem reads_store (major : inst.major? = some .store) (settled : ¬ Unsettled inst.assembly) :
    ∃ l, inst.Reads l := by
  have opcode := opcode_of_major major
  have text : inst.assembly =
      line inst.storeMnemonic [fieldName inst.rs2, addressOperand inst.immediateS inst.rs1] := by
    unfold assembly
    rw [major]
  rcases inst.storeMnemonic_cases with ⟨width, -, code, name⟩ | opened
  · refine ⟨.base (.store width inst.rs1 inst.rs2
      (inst.extractLsb' 25 7 ++ inst.extractLsb' 7 5)), .of_encode ?_ ?_⟩
    · rw [text, name]
      rfl
    · show encodeS (inst.extractLsb' 25 7 ++ inst.extractLsb' 7 5) inst.rs2 inst.rs1
        (BitVec.ofNat 3 width.storeCode) Opcode.store.bits = inst
      rw [code, ← opcode, encodeS_fields]
  · rw [text, opened] at settled
    exact absurd (unsettled_line (by decide) _) settled

/-! ### Computations -/

/-- Only two bits of `funct7` matter, of those at most one, and none for most computations. -/
theorem alike_compute (major : inst.major? = some .op) {op : Computation}
    (operation : Control.computeOp inst.funct3 inst.alternate = op.aluOp) :
    inst.Alike (Rv32i.compute op inst.rd inst.rs1 inst.rs2).encode := by
  have control :
      Control.decode inst = (Rv32i.compute op inst.rd inst.rs1 inst.rs2).control := by
    unfold Control.decode
    rw [major]
    dsimp only
    rw [operation]
    rfl
  refine .of_base control ⟨rfl, rfl, rfl, rfl⟩ ?_ (rd_pack ..).symm rfl (fun a => rfl)
    fun indirect => ?_
  · unfold slot?
    rw [major]
  · cases indirect

theorem reads_op (major : inst.major? = some .op) : ∃ l, inst.Reads l := by
  obtain ⟨op, -, operation, name⟩ := inst.opMnemonic_cases
  refine ⟨.base (.compute op inst.rd inst.rs1 inst.rs2),
    .of_alike ?_ (alike_compute major operation)⟩
  unfold assembly
  rw [major]
  dsimp only
  rw [name]
  rfl

/-- The amount of a shift is where the second source register of other formats is. -/
theorem amount_immediateI (inst : Instruction) : inst.immediateI.toNat % 32 = inst.rs2.toNat := by
  have low : inst.immediateI.setWidth 5 = inst.rs2 := by
    apply BitVec.eq_of_getLsbD_eq
    intro i bit
    simp only [immediateI, rs2, BitVec.getLsbD_setWidth, BitVec.getLsbD_signExtend,
      BitVec.getLsbD_extractLsb']
    grind
  have field := congrArg BitVec.toNat low
  rwa [BitVec.toNat_setWidth] at field

/-- A shift depends on the amount only. -/
theorem eval_shift (kind : ShiftKind) (a : Word) {x y : Word}
    (amount : x.toNat % 32 = y.toNat % 32) :
    kind.computation.aluOp.eval a x = kind.computation.aluOp.eval a y := by
  cases kind <;>
    simp only [ShiftKind.computation, Computation.aluOp, AluOp.eval, AluOp.shift, amount]

/-- The bits of the immediate above the amount do not matter, but for the one that tells the right
shifts apart. -/
theorem alike_shift (major : inst.major? = some .opImm) {kind : ShiftKind}
    (operation : Control.computeOp inst.funct3 (inst.alternate && inst.funct3 == 5) =
      kind.computation.aluOp) :
    inst.Alike (Rv32i.shift kind inst.rd inst.rs1 inst.rs2).encode := by
  have control :
      Control.decode inst = (Rv32i.shift kind inst.rd inst.rs1 inst.rs2).control := by
    unfold Control.decode
    rw [major]
    dsimp only
    rw [operation]
    rfl
  have amount : (Rv32i.shift kind inst.rd inst.rs1 inst.rs2).encode.rs2 = inst.rs2 :=
    rs2_encodeR ..
  refine .of_base control ⟨rfl, rfl, rfl, rfl⟩ ?_ (rd_pack ..).symm rfl ?_ fun indirect => ?_
  · unfold slot?
    rw [major]
  · intro a
    refine eval_shift kind a ?_
    show inst.immediateI.toNat % 32 =
      (Rv32i.shift kind inst.rd inst.rs1 inst.rs2).encode.immediateI.toNat % 32
    rw [amount_immediateI, amount_immediateI, amount]
  · cases indirect

theorem reads_opImm (major : inst.major? = some .opImm) : ∃ l, inst.Reads l := by
  have opcode := opcode_of_major major
  have text : inst.assembly = inst.immediateAssembly := by
    unfold assembly
    rw [major]
  unfold immediateAssembly at text
  rcases inst.opImmMnemonic_cases with
    ⟨kind, -, code, number, name⟩ | ⟨kind, -, shift, operation, name⟩
  · refine ⟨.base (.immediate kind inst.rd inst.rs1 inst.csr), .of_encode ?_ ?_⟩
    · rw [text, name]
      dsimp only
      rw [if_neg number, toInt_immediateI]
      rfl
    · show encodeI inst.csr inst.rs1 kind.computation.funct3 inst.rd Opcode.opImm.bits = inst
      rw [← code, ← opcode, encodeI_fields]
  · refine ⟨.base (.shift kind inst.rd inst.rs1 inst.rs2),
      .of_alike ?_ (alike_shift major operation)⟩
    rw [text, name]
    dsimp only
    rw [if_pos shift]
    rfl

/-! ### Coprocessors -/

/-- The operation of a word for CP1 is its `funct7` field, and CP2 and CP3 have only one. -/
theorem alike_encodeR {o : Opcode} (offload : o = .opFp ∨ o = .custom0 ∨ o = .custom1)
    (major : inst.major? = some o) {code : BitVec 7} (operation : o = .opFp → inst.funct7 = code) :
    inst.Alike (encodeR code inst.rs2 inst.rs1 0 inst.rd o.bits) := by
  generalize fields : encodeR code inst.rs2 inst.rs1 0 inst.rd o.bits = word
  have major' : word.major? = some o := by
    unfold major?
    rw [← fields, encodeR, opcode_pack, Opcode.ofBits?_bits]
  have rd : inst.rd = word.rd := fields ▸ (rd_pack ..).symm
  have rs1 : inst.rs1 = word.rs1 := fields ▸ (rs1_pack ..).symm
  have rs2 : inst.rs2 = word.rs2 := fields ▸ (rs2_encodeR ..).symm
  have control {w : Instruction} (major : w.major? = some o) : Control.decode w = .bubble := by
    unfold Control.decode
    rw [major]
    rcases offload with rfl | rfl | rfl <;> rfl
  have slot : inst.slot? = word.slot? := by
    unfold slot?
    rw [major, major']
  refine ⟨?_, ?_, slot, rd, ?_, ?_, ?_, ?_⟩
  · rw [control major, control major']
  · rw [control major]
    exact ⟨rfl, rfl, rfl, rfl⟩
  · unfold Instruction.sources
    rw [rs1, rs2]
  · intro a
    rw [control major]
    rfl
  · intro indirect
    rw [control major] at indirect
    cases indirect
  · intro csrs a b slot' owned
    unfold slot? at owned
    rw [major] at owned
    rcases offload with rfl | rfl | rfl <;> cases owned
    · have computed : singlePrecision { instruction := inst, a, b } =
          singlePrecision { instruction := word, a, b } := by
        unfold singlePrecision
        dsimp only
        rw [operation rfl, ← fields, funct7_encodeR]
      unfold Bank.answer FixedLatencyUnit.completion
      dsimp only
      rw [computed]
    · rfl
    · rfl

theorem reads_opFp (major : inst.major? = some .opFp) (settled : ¬ Unsettled inst.assembly) :
    ∃ l, inst.Reads l := by
  have text : inst.assembly = line inst.opFpMnemonic
      ["f" ++ toString inst.rd.toNat, "f" ++ toString inst.rs1.toNat,
        "f" ++ toString inst.rs2.toNat] := by
    unfold assembly
    rw [major]
  rcases inst.opFpMnemonic_cases with ⟨op, -, code, name⟩ | opened
  · refine ⟨.float op inst.rd inst.rs1 inst.rs2, .of_alike ?_ ?_⟩
    · rw [text, name]
      rfl
    · exact alike_encodeR (.inl rfl) major fun _ => code.symm
  · rw [text, opened] at settled
    exact absurd (unsettled_line (by decide) _) settled

theorem reads_custom0 (major : inst.major? = some .custom0) : ∃ l, inst.Reads l := by
  refine ⟨.custom0 inst.rd inst.rs1 inst.rs2,
    .of_alike ?_ (alike_encodeR (.inr (.inl rfl)) major (by rintro ⟨⟩))⟩
  unfold assembly
  rw [major]
  rfl

theorem reads_custom1 (major : inst.major? = some .custom1) : ∃ l, inst.Reads l := by
  refine ⟨.custom1 inst.rd inst.rs1 inst.rs2,
    .of_alike ?_ (alike_encodeR (.inr (.inr rfl)) major (by rintro ⟨⟩))⟩
  unfold assembly
  rw [major]
  rfl

theorem reads_privileged (word : Privileged) : word.encode.Reads (.privileged word) := by
  refine .of_encode ?_ rfl
  cases word <;> decide

theorem reads_system (major : inst.major? = some .system) (settled : ¬ Unsettled inst.assembly) :
    ∃ l, inst.Reads l := by
  have opcode := opcode_of_major major
  -- Four words have a text of their own, whatever their fields say.
  by_cases privileged : ∃ word : Privileged, inst = word.encode
  · obtain ⟨word, rfl⟩ := privileged
    exact ⟨_, reads_privileged word⟩
  have ecall : inst ≠ ecall := fun is => privileged ⟨.ecall, is⟩
  have ebreak : inst ≠ ebreak := fun is => privileged ⟨.ebreak, is⟩
  have mret : inst ≠ mret := fun is => privileged ⟨.mret, is⟩
  have wfi : inst ≠ wfi := fun is => privileged ⟨.wfi, is⟩
  have text : inst.assembly = inst.systemAssembly := by
    unfold assembly
    rw [major]
  unfold systemAssembly at text
  rw [if_neg ecall, if_neg ebreak, if_neg mret, if_neg wfi] at text
  rcases inst.csrMnemonic?_cases with ⟨op, -, immediate, code, form, name⟩ | opened
  · refine ⟨.csr op immediate inst.rd inst.csr inst.rs1, .of_encode ?_ ?_⟩
    · rw [text, name]
      dsimp only
      cases immediate with
      | false =>
        rw [if_pos (form.mpr rfl)]
        rfl
      | true =>
        rw [if_neg fun few => Bool.noConfusion (form.mp few)]
        rfl
    · show encodeI inst.csr inst.rs1 (op.funct3 immediate) inst.rd Opcode.system.bits = inst
      rw [code, ← opcode, encodeI_fields]
  · rw [opened] at text
    dsimp only at text
    rw [text] at settled
    exact absurd (by decide) settled

/-! ## Every word -/

theorem isUnrecognised_iff :
    inst.isUnrecognised = true ↔ Control.decodeSlot inst true = .bubble ∧ inst.slot? = none := by
  unfold isUnrecognised
  rw [Bool.and_eq_true, Option.isNone_iff_eq_none, beq_iff_eq, and_comm]
  rfl

/-- What is not executed is a word of an opcode that is not allocated, or a fence. -/
theorem isUnrecognised_iff_major :
    inst.isUnrecognised = true ↔ inst.major? = none ∨ inst.major? = some .miscMem := by
  rw [isUnrecognised_iff, Control.decodeSlot_true]
  unfold Control.decode slot?
  cases inst.major? with
  | none => simp
  | some o => cases o <;> simp [Control.bubble]

/-- Every word that is executed has a line, if its text settles what it does. -/
theorem exists_reads (recognised : ¬ inst.isUnrecognised = true)
    (settled : ¬ Unsettled inst.assembly) : ∃ l, inst.Reads l := by
  rw [isUnrecognised_iff_major, not_or] at recognised
  obtain ⟨allocated, fence⟩ := recognised
  cases major : inst.major? with
  | none => exact absurd major allocated
  | some o =>
    cases o with
    | load => exact reads_load major settled
    | miscMem => exact absurd major fence
    | opImm => exact reads_opImm major
    | auipc => exact reads_auipc major
    | store => exact reads_store major settled
    | op => exact reads_op major
    | lui => exact reads_lui major
    | branch => exact reads_branch major settled
    | jalr => exact reads_jalr major
    | jal => exact reads_jal major
    | system => exact reads_system major settled
    | opFp => exact reads_opFp major settled
    | custom0 => exact reads_custom0 major
    | custom1 => exact reads_custom1 major

/-- Only words that are not executed are written without a mnemonic. -/
theorem isUnrecognised_iff_assembly :
    inst.isUnrecognised = true ↔ inst.assembly = "unknown" ∨ inst.assembly = "fence" := by
  constructor
  · rw [isUnrecognised_iff_major]
    unfold assembly
    rintro (major | major)
    · rw [major]
      exact .inl rfl
    · rw [major]
      exact .inr rfl
  · intro text
    by_contra recognised
    have settled : ¬ Unsettled inst.assembly := by
      rcases text with text | text <;> rw [text] <;> decide
    obtain ⟨l, reads⟩ := exists_reads recognised settled
    rw [reads.text] at text
    exact text.elim l.text_ne.1 l.text_ne.2

end Instruction

/-- Decode drops the words that are not recognised, and no others. -/
theorem IfId.decode_dropped_iff (f : IfId) (forwarding : Bool) (regs : RegisterFile)
    (ex mem : Producer) :
    f.decode forwarding regs ex mem = .dropped f ↔ f.inst.isUnrecognised = true := by
  constructor
  · intro dropped
    rcases f.decode_cases forwarding regs ex mem with
      ⟨unrecognised, -⟩ | ⟨reason, wait⟩ | ⟨-, e, hazards, operands, -, -, issued⟩
    · exact unrecognised
    · rw [dropped] at wait
      cases congrArg Interlock.stallPoint wait
    · rw [dropped] at issued
      cases issued
  · intro unrecognised
    unfold IfId.decode
    rw [if_pos unrecognised]

/-- The text of a word tells the truth about its execution. It is `unknown` or `fence` exactly for
the words that set no control line and belong to no coprocessor, which decode drops. Words with the
same text, if it is neither and leaves nothing open, have the same control lines, coprocessor,
destination and source registers, and whatever their address and operands are, the datapath or the
unit of the coprocessor does the same with them. -/
theorem Instruction.behaviour_of_assembly :
    (∀ inst : Instruction,
      ((inst.assembly = "unknown" ∨ inst.assembly = "fence") ↔
        Control.decodeSlot inst true = .bubble ∧ inst.slot? = none) ∧
      ∀ (pc : Word) (forwarding : Bool) (regs : RegisterFile) (ex mem : Producer),
        ({ pc, inst } : IfId).decode forwarding regs ex mem = .dropped { pc, inst } ↔
          (inst.assembly = "unknown" ∨ inst.assembly = "fence")) ∧
    ∀ inst inst' : Instruction, inst.assembly = inst'.assembly →
      ¬ (inst.assembly = "unknown" ∨ inst.assembly = "fence") → ¬ Unsettled inst.assembly →
        inst.behaviour = inst'.behaviour := by
  refine ⟨fun inst => ⟨?_, fun pc forwarding regs ex mem => ?_⟩, ?_⟩
  · rw [← isUnrecognised_iff_assembly, isUnrecognised_iff]
  · rw [IfId.decode_dropped_iff, isUnrecognised_iff_assembly]
  · intro inst inst' same written settled
    have settled' : ¬ Unsettled inst'.assembly := same ▸ settled
    rw [← isUnrecognised_iff_assembly] at written
    have recognised : ¬ inst'.isUnrecognised = true := by
      rwa [isUnrecognised_iff_assembly, ← same, ← isUnrecognised_iff_assembly]
    -- Each word behaves like that of its line, and the text has one line only.
    obtain ⟨l, reads⟩ := exists_reads written settled
    obtain ⟨l', reads'⟩ := exists_reads recognised settled'
    obtain rfl : l = l' := Line.text_injective (by rw [← reads.text, same, reads'.text])
    rw [reads.behaviour, reads'.behaviour]

/-- So the rounding mode of `fadd.s` does not matter. -/
theorem Instruction.behaviour_of_assembly_rounding :
    (0x0031_00D3 : Instruction).assembly = "fadd.s f1, f2, f3" ∧
      (0x0031_70D3 : Instruction).behaviour = (0x0031_00D3 : Instruction).behaviour := by
  have text : (0x0031_00D3 : Instruction).assembly = "fadd.s f1, f2, f3" := by decide
  have text' : (0x0031_70D3 : Instruction).assembly = "fadd.s f1, f2, f3" := by decide
  refine ⟨text, Instruction.behaviour_of_assembly.2 _ _ (text'.trans text.symm) ?_ ?_⟩
  · rw [text']
    decide
  · rw [text']
    decide

end FiveStage
