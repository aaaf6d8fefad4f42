import FiveStage.Instruction.Opcode

/-!
# Instruction fields

An instruction is a word; this module names its bit fields. Every field is read from every word,
whether or not the format of the word has it.
-/

namespace FiveStage

/-- A 32-bit instruction word. -/
abbrev Instruction := BitVec 32

namespace Instruction

/-- Bits 6 to 0. -/
def opcode (inst : Instruction) : BitVec 7 :=
  inst.extractLsb' 0 7

/-- Bits 11 to 7: the destination register. -/
def rd (inst : Instruction) : BitVec 5 :=
  inst.extractLsb' 7 5

/-- Bits 14 to 12. -/
def funct3 (inst : Instruction) : BitVec 3 :=
  inst.extractLsb' 12 3

/-- Bits 19 to 15: the first source register. -/
def rs1 (inst : Instruction) : BitVec 5 :=
  inst.extractLsb' 15 5

/-- Bits 24 to 20: the second source register. -/
def rs2 (inst : Instruction) : BitVec 5 :=
  inst.extractLsb' 20 5

/-- Bits 31 to 25. -/
def funct7 (inst : Instruction) : BitVec 7 :=
  inst.extractLsb' 25 7

/-- Bits 31 to 20: the address of a control and status register. -/
def csr (inst : Instruction) : BitVec 12 :=
  inst.extractLsb' 20 12

/-- Bit 30, which tells subtraction from addition and an arithmetic shift from a logical one. -/
def alternate (inst : Instruction) : Bool :=
  inst.getLsbD 30

/-- The major opcode, if the opcode field is allocated. -/
def major? (inst : Instruction) : Option Opcode :=
  Opcode.ofBits? inst.opcode

end Instruction

end FiveStage
