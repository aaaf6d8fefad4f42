import FiveStage.Proofs.Instruction.Encoding
import FiveStage.Proofs.Memory.ByteMemory

/-!
# The base instruction set

The instructions of RV32I but for the fence and those of the system opcode: how each of them is
encoded, and what it does to the registers, to the program counter and to a memory of bytes. All of
it is read off the manual, and refers to nothing that the pipeline computes with. Sums, differences
and shifts are those of numbers, modulo `2 ^ 32`.
-/

namespace FiveStage

open Lanes

/-! ## Instructions -/

/-- The computations on two registers. -/
inductive Computation where
  | add
  | sub
  | sll
  | slt
  | sltu
  | xor
  | srl
  | sra
  | or
  | and
  deriving DecidableEq, Repr

/-- The computations with an immediate. -/
inductive ImmediateKind where
  | addi
  | slti
  | sltiu
  | xori
  | ori
  | andi
  deriving DecidableEq, Repr

/-- The shifts by an immediate amount. -/
inductive ShiftKind where
  | slli
  | srli
  | srai
  deriving DecidableEq, Repr

/-- The conditional branches. -/
inductive BranchKind where
  | beq
  | bne
  | blt
  | bge
  | bltu
  | bgeu
  deriving DecidableEq, Repr

/-- An instruction. Offsets of branches and of `jal` count half words. -/
inductive Rv32i where
  | lui (rd : BitVec 5) (imm : BitVec 20)
  | auipc (rd : BitVec 5) (imm : BitVec 20)
  | jal (rd : BitVec 5) (offset : BitVec 20)
  | jalr (rd rs1 : BitVec 5) (imm : BitVec 12)
  | branch (kind : BranchKind) (rs1 rs2 : BitVec 5) (offset : BitVec 12)
  | load (kind : LoadKind) (rd rs1 : BitVec 5) (imm : BitVec 12)
  | store (width : Width) (rs1 rs2 : BitVec 5) (imm : BitVec 12)
  | immediate (kind : ImmediateKind) (rd rs1 : BitVec 5) (imm : BitVec 12)
  | shift (kind : ShiftKind) (rd rs1 amount : BitVec 5)
  | compute (op : Computation) (rd rs1 rs2 : BitVec 5)
  deriving DecidableEq, Repr

/-! ## Codes -/

namespace Computation

def funct3 : Computation → BitVec 3
  | add | sub => 0
  | sll => 1
  | slt => 2
  | sltu => 3
  | xor => 4
  | srl | sra => 5
  | or => 6
  | and => 7

def funct7 : Computation → BitVec 7
  | sub | sra => 0b0100000
  | _ => 0

end Computation

def ImmediateKind.computation : ImmediateKind → Computation
  | addi => .add
  | slti => .slt
  | sltiu => .sltu
  | xori => .xor
  | ori => .or
  | andi => .and

def ShiftKind.computation : ShiftKind → Computation
  | slli => .sll
  | srli => .srl
  | srai => .sra

def BranchKind.funct3 : BranchKind → BitVec 3
  | beq => 0
  | bne => 1
  | blt => 4
  | bge => 5
  | bltu => 6
  | bgeu => 7

namespace Rv32i

def opcode : Rv32i → BitVec 7
  | lui .. => 0b0110111
  | auipc .. => 0b0010111
  | jal .. => 0b1101111
  | jalr .. => 0b1100111
  | branch .. => 0b1100011
  | load .. => 0b0000011
  | store .. => 0b0100011
  | immediate .. | shift .. => 0b0010011
  | compute .. => 0b0110011

open Instruction in
/-- The word of an instruction. -/
def encode (i : Rv32i) : Instruction :=
  match i with
  | lui rd imm | auipc rd imm => encodeU imm rd i.opcode
  | jal rd offset => encodeJ offset rd i.opcode
  | jalr rd rs1 imm => encodeI imm rs1 0 rd i.opcode
  | branch kind rs1 rs2 offset => encodeB offset rs2 rs1 kind.funct3 i.opcode
  | load kind rd rs1 imm => encodeI imm rs1 (BitVec.ofNat 3 kind.code) rd i.opcode
  | store width rs1 rs2 imm => encodeS imm rs2 rs1 (BitVec.ofNat 3 width.storeCode) i.opcode
  | immediate kind rd rs1 imm => encodeI imm rs1 kind.computation.funct3 rd i.opcode
  | shift kind rd rs1 amount =>
      encodeI (kind.computation.funct7 ++ amount) rs1 kind.computation.funct3 rd i.opcode
  | compute op rd rs1 rs2 => encodeR op.funct7 rs2 rs1 op.funct3 rd i.opcode

end Rv32i

/-! ## Effects -/

/-- The value that a computation leaves. A shift takes the amount modulo 32, and the arithmetic
right shift rounds down. -/
def Computation.result (op : Computation) (a b : Word) : Word :=
  let amount := b.toNat % 32
  match op with
  | add => BitVec.ofNat 32 (a.toNat + b.toNat)
  | sub => BitVec.ofInt 32 ((a.toNat : Int) - b.toNat)
  | sll => BitVec.ofNat 32 (a.toNat * Nat.pow 2 amount)
  | slt => if a.toInt < b.toInt then 1 else 0
  | sltu => if a.toNat < b.toNat then 1 else 0
  | xor => a ^^^ b
  | srl => BitVec.ofNat 32 (a.toNat / Nat.pow 2 amount)
  | sra => BitVec.ofInt 32 (a.toInt / Nat.pow 2 amount)
  | or => a ||| b
  | and => a &&& b

/-- Whether a branch is taken. -/
def BranchKind.taken (kind : BranchKind) (a b : Word) : Bool :=
  match kind with
  | beq => a.toNat = b.toNat
  | bne => a.toNat ≠ b.toNat
  | blt => a.toInt < b.toInt
  | bge => b.toInt ≤ a.toInt
  | bltu => a.toNat < b.toNat
  | bgeu => b.toNat ≤ a.toNat

/-- What an instruction does. -/
structure Effect where
  /-- The register that it writes, which is not `x0`, and the value. -/
  write : Option (Nat × Word)
  /-- The address of the next instruction. -/
  next : Word
  memory : ByteMemory

/-- What is written if a value goes to register `rd`. -/
def Effect.written (rd : BitVec 5) (value : Word) : Option (Nat × Word) :=
  if rd = 0 then none else some (rd.toNat, value)

/-- The effect of a jump, if its target is the address of a word. -/
def Effect.aligned? (o : Effect) : Option Effect :=
  if o.next.toNat % 4 = 0 then some o else none

namespace Rv32i

open Effect

/-- What an instruction at `pc` does, given the registers and the memory. A jump to an address that
is not a multiple of four, and an access to one that is not a multiple of its width, are exceptions
and have no effect. -/
def effect? (i : Rv32i) (pc : Word) (x : BitVec 5 → Word) (memory : ByteMemory) :
    Option Effect :=
  let next := BitVec.ofNat 32 (pc.toNat + 4)
  match i with
  | lui rd imm =>
      some { write := written rd (BitVec.ofNat 32 (imm.toNat * 0x1000)), next, memory }
  | auipc rd imm =>
      some { write := written rd (BitVec.ofNat 32 (pc.toNat + imm.toNat * 0x1000)), next, memory }
  | jal rd offset =>
      aligned?
        { write := written rd next
          next := BitVec.ofInt 32 (pc.toNat + 2 * offset.toInt)
          memory }
  | jalr rd rs1 imm =>
      let sum := BitVec.ofInt 32 ((x rs1).toNat + imm.toInt)
      aligned? { write := written rd next, next := BitVec.ofNat 32 (sum.toNat / 2 * 2), memory }
  | branch kind rs1 rs2 offset =>
      if kind.taken (x rs1) (x rs2) then
        aligned? { write := none, next := BitVec.ofInt 32 (pc.toNat + 2 * offset.toInt), memory }
      else some { write := none, next, memory }
  | load kind rd rs1 imm =>
      let address := BitVec.ofInt 32 ((x rs1).toNat + imm.toInt)
      if address.toNat % kind.width.bytes = 0 then
        some { write := written rd (memory.load kind address), next, memory }
      else none
  | store width rs1 rs2 imm =>
      let address := BitVec.ofInt 32 ((x rs1).toNat + imm.toInt)
      if address.toNat % width.bytes = 0 then
        some { write := none, next, memory := memory.store width address (x rs2) }
      else none
  | immediate kind rd rs1 imm =>
      let value := kind.computation.result (x rs1) (BitVec.ofInt 32 imm.toInt)
      some { write := written rd value, next, memory }
  | shift kind rd rs1 amount =>
      let value := kind.computation.result (x rs1) (BitVec.ofNat 32 amount.toNat)
      some { write := written rd value, next, memory }
  | compute op rd rs1 rs2 =>
      some { write := written rd (op.result (x rs1) (x rs2)), next, memory }

end Rv32i

end FiveStage
