import FiveStage.Word

/-!
# Major opcodes

The fourteen major opcodes that the pipeline knows, and their seven-bit codes.
-/

namespace FiveStage

/-- A major opcode: bits 6 to 0 of an instruction word. -/
inductive Opcode where
  | load
  | miscMem
  | opImm
  | auipc
  | store
  | op
  | lui
  | branch
  | jalr
  | jal
  | system
  | opFp
  | custom0
  | custom1
  deriving DecidableEq, Repr

namespace Opcode

/-- The code of a major opcode. -/
def bits : Opcode → BitVec 7
  | load => 0b0000011
  | miscMem => 0b0001111
  | opImm => 0b0010011
  | auipc => 0b0010111
  | store => 0b0100011
  | op => 0b0110011
  | lui => 0b0110111
  | branch => 0b1100011
  | jalr => 0b1100111
  | jal => 0b1101111
  | system => 0b1110011
  | opFp => 0b1010011
  | custom0 => 0b0001011
  | custom1 => 0b0101011

/-- The major opcode with the given code, if one is allocated to it. -/
def ofBits? (code : BitVec 7) : Option Opcode :=
  match code.toNat with
  | 0b0000011 => some load
  | 0b0001111 => some miscMem
  | 0b0010011 => some opImm
  | 0b0010111 => some auipc
  | 0b0100011 => some store
  | 0b0110011 => some op
  | 0b0110111 => some lui
  | 0b1100011 => some branch
  | 0b1100111 => some jalr
  | 0b1101111 => some jal
  | 0b1110011 => some system
  | 0b1010011 => some opFp
  | 0b0001011 => some custom0
  | 0b0101011 => some custom1
  | _ => none

@[simp]
theorem ofBits?_bits (o : Opcode) : ofBits? o.bits = some o := by
  cases o <;> rfl

/-- An allocated code belongs to one opcode only. -/
theorem ofBits?_eq_some_iff {code : BitVec 7} {o : Opcode} :
    ofBits? code = some o ↔ code = o.bits := by
  constructor
  · revert code o
    decide
  · rintro rfl
    simp

end Opcode

end FiveStage
