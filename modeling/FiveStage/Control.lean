import FiveStage.Datapath.Alu
import FiveStage.Instruction.Immediate
import FiveStage.Slot

/-!
# Control bundles

The bundle of control lines that an instruction word sets. Every word has one: a word whose major
opcode is not allocated, a fence, and an instruction for one of the coprocessors CP1 to CP3 set
no line at all, which is the bundle of a bubble.
-/

namespace FiveStage

/-- The control lines of one instruction. -/
structure Control where
  regWrite : Bool := false
  memRead : Bool := false
  memWrite : Bool := false
  /-- Takes the second operand from the immediate. -/
  aluSrc : Bool := false
  branch : Bool := false
  jump : Bool := false
  jalr : Bool := false
  lui : Bool := false
  /-- Is `auipc`, whose first operand is the address of the instruction. -/
  auipc : Bool := false
  system : Bool := false
  format : ImmediateFormat := .none
  aluOp : AluOp := .add
  deriving DecidableEq, Repr

namespace Control

/-- The bundle that sets no line. -/
def bubble : Control := {}

/-- Whether the instruction may send the fetch stream elsewhere. -/
def isTransfer (c : Control) : Bool :=
  c.branch || c.jump || c.jalr

/-- The comparison that a branch runs through the integer unit. -/
def branchOp (funct3 : BitVec 3) : AluOp :=
  match funct3.toNat with
  | 4 | 5 => .slt
  | 6 | 7 => .sltu
  | _ => .sub

/-- The operation of a register or immediate computation; `alternate` chooses subtraction over
addition and the arithmetic right shift over the logical one. -/
def computeOp (funct3 : BitVec 3) (alternate : Bool) : AluOp :=
  match funct3.toNat with
  | 0 => if alternate then .sub else .add
  | 1 => .sll
  | 2 => .slt
  | 3 => .sltu
  | 4 => .xor
  | 5 => if alternate then .sra else .srl
  | 6 => .or
  | _ => .and

/-- The bundle of an instruction word. There is no immediate subtraction, so among the immediate
computations only the right shifts look at the alternate bit. -/
def decode (inst : Instruction) : Control :=
  match inst.major? with
  | some .lui => { regWrite := true, aluSrc := true, lui := true, format := .u, aluOp := .copyB }
  | some .auipc => { regWrite := true, aluSrc := true, auipc := true, format := .u }
  | some .jal => { regWrite := true, jump := true, aluSrc := true, format := .j }
  | some .jalr => { regWrite := true, jalr := true, aluSrc := true, format := .i }
  | some .branch => { branch := true, format := .b, aluOp := branchOp inst.funct3 }
  | some .load => { regWrite := true, memRead := true, aluSrc := true, format := .i }
  | some .store => { memWrite := true, aluSrc := true, format := .s }
  | some .opImm =>
      { regWrite := true, aluSrc := true, format := .i,
        aluOp := computeOp inst.funct3 (inst.alternate && inst.funct3 == 5) }
  | some .op => { regWrite := true, aluOp := computeOp inst.funct3 inst.alternate }
  | some .system => { system := true, regWrite := inst.funct3 != 0 }
  | _ => bubble

/-- The bundle of a pipeline slot: a slot that holds no instruction is a bubble, whatever word
is on its wires. -/
def decodeSlot (inst : Instruction) (valid : Bool) : Control :=
  if valid then decode inst else bubble

@[simp]
theorem decodeSlot_true (inst : Instruction) : decodeSlot inst true = decode inst := rfl

@[simp]
theorem decodeSlot_false (inst : Instruction) : decodeSlot inst false = bubble := rfl

/-- The lines of a bundle with their names, in a fixed order. -/
def lines (c : Control) : List (String × Bool) :=
  [("reg_write", c.regWrite), ("mem_read", c.memRead), ("mem_write", c.memWrite),
    ("alu_src", c.aluSrc), ("branch", c.branch), ("jump", c.jump), ("jalr", c.jalr),
    ("lui", c.lui), ("auipc", c.auipc), ("system", c.system)]

end Control

/-- Whether there is nothing to execute in a word: it sets no control line and belongs to no
coprocessor. -/
def Instruction.isUnrecognised (inst : Instruction) : Bool :=
  inst.slot?.isNone && Control.decode inst == .bubble

end FiveStage
