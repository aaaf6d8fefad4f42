import FiveStage.Instruction.Immediate
import FiveStage.RegisterFile

/-!
# Assembly text

The one-line assembly text of an instruction word. A word outside every known format is `unknown`,
and a mnemonic that the fields do not settle ends in `??`.
-/

namespace FiveStage.Instruction

/-- The word of an environment call. -/
def ecall : Instruction := 0x00000073

/-- The word of a breakpoint. -/
def ebreak : Instruction := 0x00100073

/-- The word of a return from a machine-mode trap. -/
def mret : Instruction := 0x30200073

/-- The word of a wait for an interrupt. -/
def wfi : Instruction := 0x10500073

/-- The mnemonic of a register computation. -/
def opMnemonic (inst : Instruction) : String :=
  match inst.funct3.toNat with
  | 0 => if inst.alternate then "sub" else "add"
  | 1 => "sll"
  | 2 => "slt"
  | 3 => "sltu"
  | 4 => "xor"
  | 5 => if inst.alternate then "sra" else "srl"
  | 6 => "or"
  | _ => "and"

/-- The mnemonic of an immediate computation. -/
def opImmMnemonic (inst : Instruction) : String :=
  match inst.funct3.toNat with
  | 0 => "addi"
  | 1 => "slli"
  | 2 => "slti"
  | 3 => "sltiu"
  | 4 => "xori"
  | 5 => if inst.alternate then "srai" else "srli"
  | 6 => "ori"
  | _ => "andi"

/-- The mnemonic of a load. -/
def loadMnemonic (inst : Instruction) : String :=
  match inst.funct3.toNat with
  | 0 => "lb"
  | 1 => "lh"
  | 2 => "lw"
  | 4 => "lbu"
  | 5 => "lhu"
  | _ => "l??"

/-- The mnemonic of a store. -/
def storeMnemonic (inst : Instruction) : String :=
  match inst.funct3.toNat with
  | 0 => "sb"
  | 1 => "sh"
  | 2 => "sw"
  | _ => "s??"

/-- The mnemonic of a branch. -/
def branchMnemonic (inst : Instruction) : String :=
  match inst.funct3.toNat with
  | 0 => "beq"
  | 1 => "bne"
  | 4 => "blt"
  | 5 => "bge"
  | 6 => "bltu"
  | 7 => "bgeu"
  | _ => "b??"

/-- The mnemonic of a floating-point computation. -/
def opFpMnemonic (inst : Instruction) : String :=
  match inst.funct7.toNat with
  | 0 => "fadd.s"
  | 4 => "fsub.s"
  | 8 => "fmul.s"
  | 12 => "fdiv.s"
  | _ => "fp.??"

/-- The mnemonic of an access to a control and status register, if the word is one. -/
def csrMnemonic? (inst : Instruction) : Option String :=
  match inst.funct3.toNat with
  | 1 => some "csrrw"
  | 2 => some "csrrs"
  | 3 => some "csrrc"
  | 5 => some "csrrwi"
  | 6 => some "csrrsi"
  | 7 => some "csrrci"
  | _ => none

/-- The name of the register in a five-bit field. -/
def fieldName (field : BitVec 5) : String :=
  registerName field.toNat

/-- A mnemonic with its operands. -/
def line (mnemonic : String) (operands : List String) : String :=
  mnemonic ++ " " ++ ", ".intercalate operands

/-- An address operand: an offset and a base register. -/
def addressOperand (offset : Word) (base : BitVec 5) : String :=
  toString offset.toInt ++ "(" ++ fieldName base ++ ")"

/-- The text of a word with the system opcode. The four words without operands come first; the
register operand of the immediate forms is a number. -/
def systemAssembly (inst : Instruction) : String :=
  if inst = ecall then "ecall"
  else if inst = ebreak then "ebreak"
  else if inst = mret then "mret"
  else if inst = wfi then "wfi"
  else
    match inst.csrMnemonic? with
    | none => "system.??"
    | some mnemonic =>
        let source := if inst.funct3.toNat < 4 then fieldName inst.rs1 else toString inst.rs1.toNat
        line mnemonic [fieldName inst.rd, Text.hex inst.csr.toNat, source]

/-- The text of a register computation. -/
def registerAssembly (mnemonic : String) (inst : Instruction) : String :=
  line mnemonic [fieldName inst.rd, fieldName inst.rs1, fieldName inst.rs2]

/-- The text of an immediate computation. A shift shows its amount, the low five bits of the
immediate. -/
def immediateAssembly (inst : Instruction) : String :=
  let isShift := inst.funct3 == 1 || inst.funct3 == 5
  let value := if isShift then toString inst.rs2.toNat else toString inst.immediateI.toInt
  line inst.opImmMnemonic [fieldName inst.rd, fieldName inst.rs1, value]

/-- The assembly text of a word. -/
def assembly (inst : Instruction) : String :=
  match inst.major? with
  | some .op => registerAssembly inst.opMnemonic inst
  | some .opImm => immediateAssembly inst
  | some .load =>
      line inst.loadMnemonic [fieldName inst.rd, addressOperand inst.immediateI inst.rs1]
  | some .store =>
      line inst.storeMnemonic [fieldName inst.rs2, addressOperand inst.immediateS inst.rs1]
  | some .branch =>
      line inst.branchMnemonic
        [fieldName inst.rs1, fieldName inst.rs2, toString inst.immediateB.toInt]
  | some .jal => line "jal" [fieldName inst.rd, toString inst.immediateJ.toInt]
  | some .jalr => line "jalr" [fieldName inst.rd, addressOperand inst.immediateI inst.rs1]
  | some .lui => line "lui" [fieldName inst.rd, Text.hex (inst.immediateU >>> 12).toNat]
  | some .auipc => line "auipc" [fieldName inst.rd, Text.hex (inst.immediateU >>> 12).toNat]
  | some .miscMem => "fence"
  | some .system => systemAssembly inst
  | some .opFp =>
      line inst.opFpMnemonic
        ["f" ++ toString inst.rd.toNat, "f" ++ toString inst.rs1.toNat,
          "f" ++ toString inst.rs2.toNat]
  | some .custom0 => registerAssembly "custom0" inst
  | some .custom1 => registerAssembly "custom1" inst
  | none => "unknown"

end FiveStage.Instruction
