import FiveStage.Proofs.Instruction.BaseSet
import FiveStage.Proofs.Sequential.Stages

/-!
# The datapath executes the base instruction set

The pipeline has no instructions, only control lines: decode sets them from a few fields of the
word, and immediate, integer unit, branch unit and lanes each take their part of the instruction
from these. This module puts the parts together, for every instruction of the base set and all
operands (`Rv32i.datapath_effect`).
-/

namespace FiveStage

open Lanes

/-! ## Control lines -/

/-- The operation that the integer unit runs for a computation. -/
def Computation.aluOp : Computation → AluOp
  | add => .add
  | sub => .sub
  | sll => .sll
  | slt => .slt
  | sltu => .sltu
  | xor => .xor
  | srl => .srl
  | sra => .sra
  | or => .or
  | and => .and

/-- There is no immediate subtraction, so the alternate bit, which is part of the immediate, does
not matter. -/
theorem ImmediateKind.computeOp_eq (kind : ImmediateKind) (alternate : Bool) :
    Control.computeOp kind.computation.funct3 (alternate && kind.computation.funct3 == 5) =
      kind.computation.aluOp := by
  cases kind <;> cases alternate <;> rfl

namespace Rv32i

theorem opcode_encode (i : Rv32i) : i.encode.opcode = i.opcode := by
  cases i <;> exact Instruction.opcode_pack ..

/-- The control lines of an instruction. -/
def control : Rv32i → Control
  | lui .. => { regWrite := true, aluSrc := true, lui := true, format := .u, aluOp := .copyB }
  | auipc .. => { regWrite := true, aluSrc := true, auipc := true, format := .u }
  | jal .. => { regWrite := true, jump := true, aluSrc := true, format := .j }
  | jalr .. => { regWrite := true, jalr := true, aluSrc := true, format := .i }
  | branch kind .. => { branch := true, format := .b, aluOp := Control.branchOp kind.funct3 }
  | load .. => { regWrite := true, memRead := true, aluSrc := true, format := .i }
  | store .. => { memWrite := true, aluSrc := true, format := .s }
  | immediate kind .. =>
      { regWrite := true, aluSrc := true, format := .i, aluOp := kind.computation.aluOp }
  | shift kind .. =>
      { regWrite := true, aluSrc := true, format := .i, aluOp := kind.computation.aluOp }
  | compute op .. => { regWrite := true, aluOp := op.aluOp }

theorem decode_encode (i : Rv32i) : Control.decode i.encode = i.control := by
  unfold Control.decode Instruction.major?
  rw [i.opcode_encode]
  cases i with
  | branch kind rs1 rs2 offset =>
    have code : (branch kind rs1 rs2 offset).encode.funct3 = kind.funct3 :=
      Instruction.funct3_pack ..
    rw [code]
    rfl
  | immediate kind rd rs1 imm =>
    have code : (immediate kind rd rs1 imm).encode.funct3 = kind.computation.funct3 :=
      Instruction.funct3_pack ..
    rw [code]
    exact congrArg (fun op => ({ regWrite := true, aluSrc := true, format := .i, aluOp := op } :
      Control)) (kind.computeOp_eq _)
  | shift kind rd rs1 amount =>
    have code : (shift kind rd rs1 amount).encode.funct3 = kind.computation.funct3 :=
      Instruction.funct3_pack ..
    have alternate : (shift kind rd rs1 amount).encode.alternate =
        kind.computation.funct7.getLsbD 5 := Instruction.alternate_encodeR ..
    rw [code, alternate]
    cases kind <;> rfl
  | compute op rd rs1 rs2 =>
    have code : (compute op rd rs1 rs2).encode.funct3 = op.funct3 := Instruction.funct3_pack ..
    have alternate : (compute op rd rs1 rs2).encode.alternate = op.funct7.getLsbD 5 :=
      Instruction.alternate_encodeR ..
    rw [code, alternate]
    cases op <;> rfl
  | _ => rfl

theorem slot?_encode (i : Rv32i) : i.encode.slot? = none := by
  unfold Instruction.slot? Instruction.major?
  rw [i.opcode_encode]
  cases i <;> rfl

theorem isUnrecognised_encode (i : Rv32i) : i.encode.isUnrecognised = false := by
  unfold Instruction.isUnrecognised
  rw [i.decode_encode, i.slot?_encode]
  cases i <;> rfl

end Rv32i

/-! ## Arithmetic -/

namespace Word

/-- A sum of a word and a signed number. -/
theorem add_ofInt (w : Word) (k : Int) : w + BitVec.ofInt 32 k = BitVec.ofInt 32 (w.toNat + k) := by
  rw [BitVec.ofInt_add, BitVec.ofInt_natCast, BitVec.ofNat_toNat, BitVec.setWidth_eq]

theorem add_ofNat (w : Word) (k : Nat) : w + BitVec.ofNat 32 k = BitVec.ofNat 32 (w.toNat + k) := by
  rw [BitVec.ofNat_add, BitVec.ofNat_toNat, BitVec.setWidth_eq]

theorem add_eq (a b : Word) : a + b = BitVec.ofNat 32 (a.toNat + b.toNat) := by
  rw [← add_ofNat, BitVec.ofNat_toNat, BitVec.setWidth_eq]

theorem sub_eq (a b : Word) : a - b = BitVec.ofInt 32 ((a.toNat : Int) - b.toNat) := by
  apply BitVec.eq_of_toNat_eq
  rw [BitVec.toNat_sub, BitVec.toNat_ofInt]
  have := a.isLt
  have := b.isLt
  omega

theorem shiftLeft_eq (a : Word) (n : Nat) :
    a <<< n = BitVec.ofNat 32 (a.toNat * Nat.pow 2 n) := by
  apply BitVec.eq_of_toNat_eq
  rw [BitVec.toNat_shiftLeft, Nat.shiftLeft_eq, BitVec.toNat_ofNat, Nat.pow_eq]

theorem shiftRight_eq (a : Word) (n : Nat) :
    a >>> n = BitVec.ofNat 32 (a.toNat / Nat.pow 2 n) := by
  apply BitVec.eq_of_toNat_eq
  have bounded : a.toNat / 2 ^ n < 2 ^ 32 := Nat.lt_of_le_of_lt (Nat.div_le_self _ _) a.isLt
  rw [BitVec.toNat_ushiftRight, Nat.shiftRight_eq_div_pow, BitVec.toNat_ofNat, Nat.pow_eq,
    Nat.mod_eq_of_lt bounded]

theorem sshiftRight_eq (a : Word) (n : Nat) :
    a.sshiftRight n = BitVec.ofInt 32 (a.toInt / Nat.pow 2 n) := by
  unfold BitVec.sshiftRight
  rw [Int.shiftRight_eq_div_pow]
  rfl

/-- The lowest bit is cleared by halving and doubling. -/
theorem and_not_one (w : Word) : w &&& ~~~1#32 = BitVec.ofNat 32 (w.toNat / 2 * 2) := by
  have shifted : w &&& ~~~1#32 = (w >>> 1) <<< 1 := by
    apply BitVec.eq_of_getLsbD_eq
    intro i bit
    rw [BitVec.getLsbD_and, BitVec.getLsbD_not, BitVec.getLsbD_one, BitVec.getLsbD_shiftLeft,
      BitVec.getLsbD_ushiftRight]
    cases i with
    | zero => simp
    | succ i => simp [bit, Nat.add_comm 1]
  apply BitVec.eq_of_toNat_eq
  rw [shifted, BitVec.toNat_shiftLeft, BitVec.toNat_ushiftRight, Nat.shiftLeft_eq,
    Nat.shiftRight_eq_div_pow, BitVec.toNat_ofNat]

end Word

/-- A zero bit at the end doubles the number. -/
theorem toInt_append_zero {bits : Nat} (x : BitVec bits) : (x ++ 0#1).toInt = 2 * x.toInt := by
  cases bits with
  | zero => simp [x.eq_nil]
  | succ bits => simp [BitVec.toInt_append]

theorem append_zero_eq (x : BitVec 20) : x ++ 0#12 = BitVec.ofNat 32 (x.toNat * 0x1000) := by
  apply BitVec.eq_of_toNat_eq
  have bounded : x.toNat * 0x1000 < 2 ^ 32 := by
    have := x.isLt
    omega
  rw [BitVec.toNat_append, Nat.shiftLeft_eq]
  exact (Nat.or_zero _).trans (Nat.mod_eq_of_lt bounded).symm

/-- The integer unit computes what the manual says. -/
theorem Computation.eval_aluOp (op : Computation) (a b : Word) :
    op.aluOp.eval a b = op.result a b := by
  cases op with
  | add => exact Word.add_eq a b
  | sub => exact Word.sub_eq a b
  | sll => exact Word.shiftLeft_eq a _
  | slt =>
    change (if a.slt b then _ else _) = if a.toInt < b.toInt then _ else _
    simp [BitVec.slt]
  | sltu =>
    change (if a.ult b then _ else _) = if a.toNat < b.toNat then _ else _
    simp [BitVec.ult]
  | srl => exact Word.shiftRight_eq a _
  | sra => exact Word.sshiftRight_eq a _
  | xor => rfl
  | or => rfl
  | and => rfl

/-- A shift finds its amount in the low bits of the immediate. -/
theorem ShiftKind.result_imm (kind : ShiftKind) (funct7 : BitVec 7) (amount : BitVec 5) (a : Word) :
    kind.computation.result a (BitVec.ofInt 32 (funct7 ++ amount).toInt) =
      kind.computation.result a (BitVec.ofNat 32 amount.toNat) := by
  have low : ((funct7 ++ amount).signExtend 32).setWidth 5 = amount := by
    apply BitVec.eq_of_getLsbD_eq
    intro i bit
    rw [BitVec.getLsbD_setWidth, BitVec.getLsbD_signExtend, BitVec.getLsbD_append]
    grind
  have same : (BitVec.ofInt 32 (funct7 ++ amount).toInt).toNat % 32 =
      (BitVec.ofNat 32 amount.toNat).toNat % 32 := by
    have field := congrArg BitVec.toNat low
    rw [BitVec.toNat_setWidth] at field
    have bounded := amount.isLt
    rw [BitVec.toNat_ofNat]
    exact field.trans (by omega)
  cases kind <;> simp only [computation, Computation.result, same]

/-- The branch unit decides what the manual says. -/
theorem BranchKind.branchTaken_eq (kind : BranchKind) (a b : Word) :
    branchTaken kind.funct3.toNat a b = kind.taken a b := by
  rw [Bool.eq_iff_iff]
  cases kind with
  | beq =>
    change (a == b) = true ↔ decide _ = true
    rw [beq_iff_eq, decide_eq_true_iff, BitVec.toNat_inj]
  | bne =>
    change (a != b) = true ↔ decide _ = true
    rw [bne_iff_ne, decide_eq_true_iff, ne_eq, ne_eq, BitVec.toNat_inj]
  | blt => exact Iff.rfl
  | bge =>
    change (!decide (a.toInt < b.toInt)) = true ↔ decide _ = true
    rw [← decide_not, decide_eq_true_iff, decide_eq_true_iff, Int.not_lt]
  | bltu => exact Iff.rfl
  | bgeu =>
    change (!decide (a.toNat < b.toNat)) = true ↔ decide _ = true
    rw [← decide_not, decide_eq_true_iff, decide_eq_true_iff, Nat.not_lt]

/-! ## The datapath -/

/-- What the datapath makes of a fetched word: what it writes, where it goes on, and the bytes of
the memory after its access. -/
def IfId.effect (f : IfId) (regs : RegisterFile) (s : Storage) : Effect :=
  let e := f.entry regs.read
  let done := e.integerResult.finish s
  { write := if done.1.writes then some (done.1.rd, done.1.value) else none
    next := e.target
    memory := done.2.toBytes }

theorem IfId.effect_eq (f : IfId) (regs : RegisterFile) (s : Storage) :
    let e := f.entry regs.read
    f.effect regs s =
      { write :=
          if e.ctrl.regWrite then
            Effect.written f.inst.rd
              (if e.ctrl.jump || e.ctrl.jalr then f.pc + 4
              else if e.ctrl.memRead then loadData f.inst.funct3.toNat e.sum (s.read e.sum)
              else e.sum)
          else none
        next := e.target
        memory :=
          if e.ctrl.memWrite then
            (s.write e.sum (storeData f.inst.funct3.toNat e.sum e.rv2)
              (byteEnable f.inst.funct3.toNat e.sum)).toBytes
          else s.toBytes } := by
  intro e
  have written (value : Word) :
      (if (e.ctrl.regWrite && e.rd != 0) = true then some (e.rd, value) else none) =
        if e.ctrl.regWrite then Effect.written f.inst.rd value else none := by
    have zero : e.rd = 0 ↔ f.inst.rd = 0 := BitVec.toNat_inj (y := 0)
    cases e.ctrl.regWrite with
    | false => rfl
    | true =>
      change (if (e.rd != 0) = true then some (e.rd, value) else none) =
        if f.inst.rd = 0 then none else some (e.rd, value)
      by_cases none : f.inst.rd = 0
      · rw [if_pos none, if_neg (by simp [zero.mpr none])]
      · rw [if_neg none, if_pos (bne_iff_ne.mpr (mt zero.mp none))]
  change Effect.mk _ _ _ = _
  have writes := (e.integerResult.finish_writes s).trans
    (show _ = (e.ctrl.regWrite && e.rd != 0) from rfl)
  have rd := (e.integerResult.finish_rd s).trans (show _ = e.rd from rfl)
  congr 1
  · change (if (e.integerResult.finish s).1.writes then _ else _) = _
    rw [writes, rd, ← written, IdEx.finish_integerResult_value rfl]
    rfl
  · change (e.integerResult.finish s).2.toBytes = _
    rw [IdEx.finish_integerResult_storage rfl]
    cases e.ctrl.memWrite <;> rfl

/-! ## What decode issues -/

namespace Rv32i

/-- The registers that an instruction reads, `x0` for an operand that it does not have. -/
def sources : Rv32i → Operands Nat
  | lui .. | auipc .. | jal .. => ⟨0, 0⟩
  | jalr _ rs1 _ | load _ _ rs1 _ | immediate _ _ rs1 _ | shift _ _ rs1 _ => ⟨rs1.toNat, 0⟩
  | branch _ rs1 rs2 _ | store _ rs1 rs2 _ | compute _ _ rs1 rs2 => ⟨rs1.toNat, rs2.toNat⟩

/-- The immediate as a word. That of a shift has the bit above the amount that tells the two right
shifts apart. -/
def imm : Rv32i → Word
  | lui _ imm | auipc _ imm => BitVec.ofNat 32 (imm.toNat * 0x1000)
  | jal _ offset => BitVec.ofInt 32 (2 * offset.toInt)
  | branch _ _ _ offset => BitVec.ofInt 32 (2 * offset.toInt)
  | jalr _ _ imm | load _ _ _ imm | store _ _ _ imm | immediate _ _ _ imm =>
      BitVec.ofInt 32 imm.toInt
  | shift kind _ _ amount => BitVec.ofInt 32 (kind.computation.funct7 ++ amount).toInt
  | compute .. => 0

theorem sources_encode (i : Rv32i) : i.encode.sources i.control = i.sources := by
  have one {inst : Instruction} {r : BitVec 5} (first : inst.rs1 = r) :
      Operands.mk inst.rs1.toNat 0 = ⟨r.toNat, 0⟩ := by rw [first]
  have two {inst : Instruction} {r t : BitVec 5} (first : inst.rs1 = r) (second : inst.rs2 = t) :
      Operands.mk inst.rs1.toNat inst.rs2.toNat = ⟨r.toNat, t.toNat⟩ := by rw [first, second]
  cases i with
  | lui rd imm => rfl
  | auipc rd imm => rfl
  | jal rd offset => rfl
  | branch kind rs1 rs2 offset =>
    exact two (Instruction.rs1_pack ..) (Instruction.rs2_encodeB ..)
  | store width rs1 rs2 imm => exact two (Instruction.rs1_pack ..) (Instruction.rs2_encodeS ..)
  | compute op rd rs1 rs2 => exact two (Instruction.rs1_pack ..) (Instruction.rs2_encodeR ..)
  | _ => exact one (Instruction.rs1_pack ..)

theorem immediate_encode (i : Rv32i) : i.encode.immediate i.control.format = i.imm := by
  cases i with
  | lui rd imm => exact (Instruction.immediateU_encodeU ..).trans (append_zero_eq imm)
  | auipc rd imm => exact (Instruction.immediateU_encodeU ..).trans (append_zero_eq imm)
  | jal rd offset =>
    refine (Instruction.immediateJ_encodeJ ..).trans ?_
    exact congrArg (BitVec.ofInt 32) (toInt_append_zero offset)
  | branch kind rs1 rs2 offset =>
    refine (Instruction.immediateB_encodeB ..).trans ?_
    exact congrArg (BitVec.ofInt 32) (toInt_append_zero offset)
  | store width rs1 rs2 imm => exact Instruction.immediateS_encodeS ..
  | compute op rd rs1 rs2 => rfl
  | _ => exact Instruction.immediateI_encodeI ..

/-- The entry that decode issues for an instruction. -/
theorem entry_encode (i : Rv32i) (pc : Word) (value : Nat → Word) :
    ({ pc, inst := i.encode } : IfId).entry value =
      { pc, inst := i.encode, rs1 := i.sources.rs1, rs2 := i.sources.rs2,
        rd := i.encode.rd.toNat, imm := i.imm, rv1 := value i.sources.rs1,
        rv2 := value i.sources.rs2, ctrl := i.control } := by
  unfold IfId.entry
  dsimp only
  rw [i.decode_encode, i.sources_encode, i.immediate_encode]

/-! ## Effects -/

variable (pc : Word) (regs : RegisterFile) (s : Storage)

/-- What the integer unit computes. -/
def sum (i : Rv32i) : Word :=
  i.control.aluOp.eval (if i.control.auipc then pc else regs.read i.sources.rs1)
    (if i.control.aluSrc then i.imm else regs.read i.sources.rs2)

/-- Where execution goes on. -/
def target (i : Rv32i) : Word :=
  (PcSource.ofControl i.control (i.control.branch &&
    branchTaken i.encode.funct3.toNat (regs.read i.sources.rs1) (regs.read i.sources.rs2))).nextPc
      i.encode pc (regs.read i.sources.rs1)

theorem effect_encode (i : Rv32i) :
    ({ pc, inst := i.encode } : IfId).effect regs s =
      { write :=
          if i.control.regWrite then
            Effect.written i.encode.rd
              (if i.control.jump || i.control.jalr then pc + 4
              else if i.control.memRead then
                loadData i.encode.funct3.toNat (i.sum pc regs) (s.read (i.sum pc regs))
              else i.sum pc regs)
          else none
        next := i.target pc regs
        memory :=
          if i.control.memWrite then
            (s.write (i.sum pc regs)
              (storeData i.encode.funct3.toNat (i.sum pc regs) (regs.read i.sources.rs2))
              (byteEnable i.encode.funct3.toNat (i.sum pc regs))).toBytes
          else s.toBytes } := by
  rw [IfId.effect_eq, i.entry_encode]
  rfl

/-- The address of the next word, in the arithmetic of the manual. -/
theorem four (pc : Word) : pc + 4 = BitVec.ofNat 32 (pc.toNat + 4) :=
  Word.add_ofNat pc 4

/-- The effect of an instruction that only computes a value. -/
theorem effect_of_sum (i : Rv32i) {rd : BitVec 5} {value : Word} (destination : i.encode.rd = rd)
    (sum : i.sum pc regs = value) (straight : i.target pc regs = pc + 4)
    (lines : i.control.regWrite = true ∧ i.control.memRead = false ∧ i.control.memWrite = false ∧
      i.control.jump = false ∧ i.control.jalr = false) :
    ({ pc, inst := i.encode } : IfId).effect regs s =
      { write := Effect.written rd value, next := BitVec.ofNat 32 (pc.toNat + 4),
        memory := s.toBytes } := by
  obtain ⟨write, load, store, jump, jalr⟩ := lines
  rw [effect_encode, write, load, store, jump, jalr, sum, straight, destination, four]
  rfl

theorem effect_jal (rd : BitVec 5) (offset : BitVec 20) :
    ({ pc, inst := (jal rd offset).encode } : IfId).effect regs s =
      { write := Effect.written rd (BitVec.ofNat 32 (pc.toNat + 4))
        next := BitVec.ofInt 32 (pc.toNat + 2 * offset.toInt)
        memory := s.toBytes } := by
  have destination : (jal rd offset).encode.rd = rd := Instruction.rd_pack ..
  have target : (jal rd offset).target pc regs =
      BitVec.ofInt 32 (pc.toNat + 2 * offset.toInt) := by
    change pc + (jal rd offset).encode.immediate (jal rd offset).control.format = _
    rw [immediate_encode]
    exact Word.add_ofInt ..
  rw [effect_encode, destination, target, four]
  rfl

theorem effect_jalr (rd rs1 : BitVec 5) (imm : BitVec 12) :
    ({ pc, inst := (jalr rd rs1 imm).encode } : IfId).effect regs s =
      { write := Effect.written rd (BitVec.ofNat 32 (pc.toNat + 4))
        next := BitVec.ofNat 32
          ((BitVec.ofInt 32 ((regs.read rs1.toNat).toNat + imm.toInt)).toNat / 2 * 2)
        memory := s.toBytes } := by
  have destination : (jalr rd rs1 imm).encode.rd = rd := Instruction.rd_pack ..
  have target : (jalr rd rs1 imm).target pc regs = BitVec.ofNat 32
      ((BitVec.ofInt 32 ((regs.read rs1.toNat).toNat + imm.toInt)).toNat / 2 * 2) := by
    change (regs.read rs1.toNat +
      (jalr rd rs1 imm).encode.immediate (jalr rd rs1 imm).control.format) &&& ~~~1#32 = _
    rw [immediate_encode, Word.and_not_one]
    unfold Rv32i.imm
    rw [Word.add_ofInt]
  rw [effect_encode, destination, target, four]
  rfl

theorem effect_branch (kind : BranchKind) (rs1 rs2 : BitVec 5) (offset : BitVec 12) :
    ({ pc, inst := (branch kind rs1 rs2 offset).encode } : IfId).effect regs s =
      { write := none
        next :=
          if kind.taken (regs.read rs1.toNat) (regs.read rs2.toNat) then
            BitVec.ofInt 32 (pc.toNat + 2 * offset.toInt)
          else BitVec.ofNat 32 (pc.toNat + 4)
        memory := s.toBytes } := by
  have code : (branch kind rs1 rs2 offset).encode.funct3 = kind.funct3 :=
    Instruction.funct3_pack ..
  have offset_eq : (branch kind rs1 rs2 offset).encode.immediateB =
      BitVec.ofInt 32 (2 * offset.toInt) := (branch kind rs1 rs2 offset).immediate_encode
  have target : (branch kind rs1 rs2 offset).target pc regs =
      if kind.taken (regs.read rs1.toNat) (regs.read rs2.toNat) then
        BitVec.ofInt 32 (pc.toNat + 2 * offset.toInt)
      else BitVec.ofNat 32 (pc.toNat + 4) := by
    unfold target
    rw [code]
    change (PcSource.ofControl (branch kind rs1 rs2 offset).control
      (true && branchTaken kind.funct3.toNat (regs.read rs1.toNat)
        (regs.read rs2.toNat))).nextPc _ pc _ = _
    rw [kind.branchTaken_eq, ← four, ← Word.add_ofInt, ← offset_eq]
    cases kind.taken (regs.read rs1.toNat) (regs.read rs2.toNat) <;> rfl
  rw [effect_encode, target]
  rfl

theorem effect_load (kind : LoadKind) (rd rs1 : BitVec 5) (imm : BitVec 12) :
    ({ pc, inst := (load kind rd rs1 imm).encode } : IfId).effect regs s =
      { write := Effect.written rd (s.toBytes.load kind
          (BitVec.ofInt 32 ((regs.read rs1.toNat).toNat + imm.toInt)))
        next := BitVec.ofNat 32 (pc.toNat + 4)
        memory := s.toBytes } := by
  have destination : (load kind rd rs1 imm).encode.rd = rd := Instruction.rd_pack ..
  have code : (load kind rd rs1 imm).encode.funct3.toNat = kind.code := by
    have field : (load kind rd rs1 imm).encode.funct3 = BitVec.ofNat 3 kind.code :=
      Instruction.funct3_pack ..
    rw [field]
    cases kind <;> rfl
  have address : (load kind rd rs1 imm).sum pc regs =
      BitVec.ofInt 32 ((regs.read rs1.toNat).toNat + imm.toInt) := Word.add_ofInt ..
  have straight : (load kind rd rs1 imm).target pc regs = pc + 4 := rfl
  rw [effect_encode, destination, code, address, straight, s.loadData_read, four]
  rfl

theorem effect_store (width : Width) (rs1 rs2 : BitVec 5) (imm : BitVec 12) :
    ({ pc, inst := (store width rs1 rs2 imm).encode } : IfId).effect regs s =
      { write := none
        next := BitVec.ofNat 32 (pc.toNat + 4)
        memory := s.toBytes.store width
          (BitVec.ofInt 32 ((regs.read rs1.toNat).toNat + imm.toInt)) (regs.read rs2.toNat) } := by
  have code : (store width rs1 rs2 imm).encode.funct3.toNat = width.storeCode := by
    have field : (store width rs1 rs2 imm).encode.funct3 = BitVec.ofNat 3 width.storeCode :=
      Instruction.funct3_pack ..
    rw [field]
    cases width <;> rfl
  have address : (store width rs1 rs2 imm).sum pc regs =
      BitVec.ofInt 32 ((regs.read rs1.toNat).toNat + imm.toInt) := Word.add_ofInt ..
  have straight : (store width rs1 rs2 imm).target pc regs = pc + 4 := rfl
  rw [effect_encode, code, address, straight, s.toBytes_write, four]
  rfl

/-- A jump that has an effect has the effect of going to its target. -/
theorem of_aligned? {e o : Effect} (defined : e.aligned? = some o) : e = o := by
  unfold Effect.aligned? at defined
  split at defined
  · exact Option.some.inj defined
  · cases defined

/-- The datapath executes the base instruction set. Whatever the address, the registers and the
memory are, it recognises every instruction as one that no coprocessor executes. If the manual gives
the instruction an effect there, and not an exception for an address that is not aligned, the
datapath writes the register and the bytes that the manual says and goes on where it says. -/
theorem datapath_effect (i : Rv32i) {o : Effect}
    (defined : i.effect? pc (fun r => regs.read r.toNat) s.toBytes = some o) :
    i.encode.isUnrecognised = false ∧ i.encode.slot? = none ∧
      ({ pc, inst := i.encode } : IfId).effect regs s = o := by
  refine ⟨i.isUnrecognised_encode, i.slot?_encode, ?_⟩
  cases i with
  | lui rd imm =>
    obtain rfl := Option.some.inj defined
    exact effect_of_sum pc regs s _ (Instruction.rd_pack ..) rfl rfl ⟨rfl, rfl, rfl, rfl, rfl⟩
  | auipc rd imm =>
    obtain rfl := Option.some.inj defined
    exact effect_of_sum pc regs s _ (Instruction.rd_pack ..) (Word.add_ofNat ..) rfl
      ⟨rfl, rfl, rfl, rfl, rfl⟩
  | jal rd offset => exact (effect_jal ..).trans (of_aligned? defined)
  | jalr rd rs1 imm => exact (effect_jalr ..).trans (of_aligned? defined)
  | branch kind rs1 rs2 offset =>
    unfold effect? at defined
    dsimp only at defined
    rw [effect_branch]
    by_cases taken : kind.taken (regs.read rs1.toNat) (regs.read rs2.toNat) = true
    · rw [if_pos taken] at defined ⊢
      exact of_aligned? defined
    · rw [if_neg taken] at defined ⊢
      exact Option.some.inj defined
  | load kind rd rs1 imm =>
    unfold effect? at defined
    dsimp only at defined
    split at defined
    · exact (effect_load ..).trans (Option.some.inj defined)
    · cases defined
  | store width rs1 rs2 imm =>
    unfold effect? at defined
    dsimp only at defined
    split at defined
    · exact (effect_store ..).trans (Option.some.inj defined)
    · cases defined
  | immediate kind rd rs1 imm =>
    obtain rfl := Option.some.inj defined
    exact effect_of_sum pc regs s _ (Instruction.rd_pack ..) (Computation.eval_aluOp ..) rfl
      ⟨rfl, rfl, rfl, rfl, rfl⟩
  | shift kind rd rs1 amount =>
    obtain rfl := Option.some.inj defined
    refine effect_of_sum pc regs s _ (Instruction.rd_pack ..) ?_ rfl ⟨rfl, rfl, rfl, rfl, rfl⟩
    exact (Computation.eval_aluOp ..).trans (kind.result_imm ..)
  | compute op rd rs1 rs2 =>
    obtain rfl := Option.some.inj defined
    exact effect_of_sum pc regs s _ (Instruction.rd_pack ..) (Computation.eval_aluOp ..) rfl
      ⟨rfl, rfl, rfl, rfl, rfl⟩

/-- So does the word of `lh x5, -2(x1)`, which loads a negative half word. -/
theorem datapath_effect_lh :
    let regs := RegisterFile.zero.write 1 0x10
    let s := (Storage.zero 16).write 12 0x8001_1234 0b1111
    let o : Effect := { write := some (5, 0xFFFF_8001), next := 0x104, memory := s.toBytes }
    (load .lh 5 1 0xFFE).effect? 0x100 (fun r => regs.read r.toNat) s.toBytes = some o ∧
      (load .lh 5 1 0xFFE).encode = 0xFFE0_9283 ∧
      ({ pc := 0x100, inst := (load .lh 5 1 0xFFE).encode } : IfId).effect regs s = o := by
  intro regs s o
  have value : s.toBytes.load .lh 14 = 0xFFFF_8001 := by
    rw [← s.loadData_read]
    decide
  have defined : (load .lh 5 1 0xFFE).effect? 0x100 (fun r => regs.read r.toNat) s.toBytes =
      some o := by
    have address : BitVec.ofInt 32 ((regs.read 1).toNat + (0xFFE#12).toInt) = 14 := by decide
    change (if (BitVec.ofInt 32 ((regs.read 1).toNat + (0xFFE#12).toInt)).toNat % 2 = 0 then
      some (Effect.mk (Effect.written 5 (s.toBytes.load .lh
        (BitVec.ofInt 32 ((regs.read 1).toNat + (0xFFE#12).toInt)))) _ _) else none) = _
    rw [address, value]
    rfl
  exact ⟨defined, by decide, (datapath_effect 0x100 regs s _ defined).2.2⟩
end Rv32i

end FiveStage
