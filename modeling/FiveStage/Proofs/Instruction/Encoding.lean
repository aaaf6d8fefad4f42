import FiveStage.Instruction.Immediate

/-!
# Encodings

The formats of the base instruction set, each of which packs its fields and its immediate into a
word. All of them have the opcode, two more fields of five bits and one of three in the same places
(`pack`), so that a field is extracted from every format alike; the immediate is what the formats
scatter differently over the rest.
-/

namespace FiveStage

namespace Instruction

/-- The word with the given fields: bits 31 to 20, 19 to 15, 14 to 12, 11 to 7 and 6 to 0. -/
def pack (high : BitVec 12) (second : BitVec 5) (third : BitVec 3) (low : BitVec 5)
    (opcode : BitVec 7) : Instruction :=
  high ++ second ++ third ++ low ++ opcode

/-- The format of computations on two registers. -/
def encodeR (funct7 : BitVec 7) (rs2 rs1 : BitVec 5) (funct3 : BitVec 3) (rd : BitVec 5)
    (opcode : BitVec 7) : Instruction :=
  pack (funct7 ++ rs2) rs1 funct3 rd opcode

/-- The format with an immediate of twelve bits instead of a second register. -/
def encodeI (imm : BitVec 12) (rs1 : BitVec 5) (funct3 : BitVec 3) (rd : BitVec 5)
    (opcode : BitVec 7) : Instruction :=
  pack imm rs1 funct3 rd opcode

/-- The format of stores, with an immediate instead of a destination. -/
def encodeS (imm : BitVec 12) (rs2 rs1 : BitVec 5) (funct3 : BitVec 3) (opcode : BitVec 7) :
    Instruction :=
  pack (imm.extractLsb' 5 7 ++ rs2) rs1 funct3 (imm.extractLsb' 0 5) opcode

/-- The format of branches, with an offset that counts half words. -/
def encodeB (offset : BitVec 12) (rs2 rs1 : BitVec 5) (funct3 : BitVec 3) (opcode : BitVec 7) :
    Instruction :=
  pack (offset.extractLsb' 11 1 ++ offset.extractLsb' 4 6 ++ rs2) rs1 funct3
    (offset.extractLsb' 0 4 ++ offset.extractLsb' 10 1) opcode

/-- The format with the upper twenty bits of a word. -/
def encodeU (imm : BitVec 20) (rd : BitVec 5) (opcode : BitVec 7) : Instruction :=
  pack (imm.extractLsb' 8 12) (imm.extractLsb' 3 5) (imm.extractLsb' 0 3) rd opcode

/-- The format of `jal`, with an offset that counts half words. -/
def encodeJ (offset : BitVec 20) (rd : BitVec 5) (opcode : BitVec 7) : Instruction :=
  pack (offset.extractLsb' 19 1 ++ offset.extractLsb' 0 10 ++ offset.extractLsb' 10 1)
    (offset.extractLsb' 14 5) (offset.extractLsb' 11 3) rd opcode

/-! ## Fields -/

section Pack

variable (high : BitVec 12) (second : BitVec 5) (third : BitVec 3) (low : BitVec 5)
  (code : BitVec 7)

/-- Every bit of a packed word is a bit of the field that has its place. -/
theorem getLsbD_pack (i : Nat) :
    (pack high second third low code).getLsbD i =
      if i < 7 then code.getLsbD i
      else if i < 12 then low.getLsbD (i - 7)
      else if i < 15 then third.getLsbD (i - 12)
      else if i < 20 then second.getLsbD (i - 15)
      else high.getLsbD (i - 20) := by
  unfold pack
  simp only [BitVec.getLsbD_append]
  grind

/-- A field with the bits of `x` in their places is `x`. -/
theorem extractLsb'_eq {inst : Instruction} {start len : Nat} {x : BitVec len}
    (bits : ∀ i < len, inst.getLsbD (start + i) = x.getLsbD i) :
    inst.extractLsb' start len = x := by
  apply BitVec.eq_of_getLsbD_eq
  intro i bit
  rw [BitVec.getLsbD_extractLsb', decide_eq_true bit, Bool.true_and, bits i bit]

@[simp]
theorem opcode_pack : (pack high second third low code).opcode = code :=
  extractLsb'_eq fun i _ => by
    rw [getLsbD_pack]
    grind

@[simp]
theorem rd_pack : (pack high second third low code).rd = low :=
  extractLsb'_eq fun i _ => by
    rw [getLsbD_pack]
    grind

@[simp]
theorem funct3_pack : (pack high second third low code).funct3 = third :=
  extractLsb'_eq fun i _ => by
    rw [getLsbD_pack]
    grind

@[simp]
theorem rs1_pack : (pack high second third low code).rs1 = second :=
  extractLsb'_eq fun i _ => by
    rw [getLsbD_pack]
    grind

/-- The field that the second source register is part of. -/
@[simp]
theorem csr_pack : (pack high second third low code).csr = high :=
  extractLsb'_eq fun i _ => by
    rw [getLsbD_pack]
    grind

theorem rs2_eq_csr (inst : Instruction) : inst.rs2 = inst.csr.extractLsb' 0 5 := by
  refine extractLsb'_eq fun i bit => ?_
  unfold csr
  rw [BitVec.getLsbD_extractLsb', BitVec.getLsbD_extractLsb']
  grind

theorem alternate_eq_csr (inst : Instruction) : inst.alternate = inst.csr.getLsbD 10 := by
  unfold alternate csr
  rw [BitVec.getLsbD_extractLsb']
  rfl

end Pack

/-! ## Formats -/

section Formats

variable (rs1 rs2 rd : BitVec 5) (funct3 : BitVec 3) (code : BitVec 7)

theorem rs2_encodeR (funct7 : BitVec 7) : (encodeR funct7 rs2 rs1 funct3 rd code).rs2 = rs2 := by
  unfold encodeR
  rw [rs2_eq_csr, csr_pack]
  exact BitVec.extractLsb'_append_eq_right

theorem alternate_encodeR (funct7 : BitVec 7) :
    (encodeR funct7 rs2 rs1 funct3 rd code).alternate = funct7.getLsbD 5 := by
  unfold encodeR
  rw [alternate_eq_csr, csr_pack, BitVec.getLsbD_append]
  rfl

theorem immediateI_encodeI (imm : BitVec 12) :
    (encodeI imm rs1 funct3 rd code).immediateI = imm.signExtend 32 :=
  congrArg (BitVec.signExtend 32) (csr_pack imm rs1 funct3 rd code)

theorem rs2_encodeS (imm : BitVec 12) : (encodeS imm rs2 rs1 funct3 code).rs2 = rs2 := by
  unfold encodeS
  rw [rs2_eq_csr, csr_pack]
  exact BitVec.extractLsb'_append_eq_right

theorem immediateS_encodeS (imm : BitVec 12) :
    (encodeS imm rs2 rs1 funct3 code).immediateS = imm.signExtend 32 := by
  unfold immediateS encodeS
  congr 1
  apply BitVec.eq_of_getLsbD_eq
  intro i bit
  simp only [BitVec.getLsbD_append, BitVec.getLsbD_extractLsb', getLsbD_pack]
  grind

theorem rs2_encodeB (offset : BitVec 12) : (encodeB offset rs2 rs1 funct3 code).rs2 = rs2 := by
  unfold encodeB
  rw [rs2_eq_csr, csr_pack]
  exact BitVec.extractLsb'_append_eq_right

theorem immediateB_encodeB (offset : BitVec 12) :
    (encodeB offset rs2 rs1 funct3 code).immediateB = (offset ++ 0#1).signExtend 32 := by
  unfold immediateB encodeB
  congr 1
  apply BitVec.eq_of_getLsbD_eq
  intro i bit
  simp only [BitVec.getLsbD_append, BitVec.getLsbD_extractLsb', getLsbD_pack]
  grind

theorem immediateU_encodeU (imm : BitVec 20) : (encodeU imm rd code).immediateU = imm ++ 0#12 := by
  unfold immediateU encodeU
  apply BitVec.eq_of_getLsbD_eq
  intro i bit
  simp only [BitVec.getLsbD_append, BitVec.getLsbD_extractLsb', getLsbD_pack]
  grind

theorem immediateJ_encodeJ (offset : BitVec 20) :
    (encodeJ offset rd code).immediateJ = (offset ++ 0#1).signExtend 32 := by
  unfold immediateJ encodeJ
  congr 1
  apply BitVec.eq_of_getLsbD_eq
  intro i bit
  simp only [BitVec.getLsbD_append, BitVec.getLsbD_extractLsb', getLsbD_pack]
  grind

end Formats

end Instruction

end FiveStage
