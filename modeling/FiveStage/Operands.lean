import FiveStage.Control

/-!
# Source operands

The two source operands of an instruction, and the registers that it reads them from.
-/

namespace FiveStage

/-- One value for each source operand. -/
structure Operands (α : Type) where
  rs1 : α
  rs2 : α
  deriving DecidableEq, Repr

def Operands.map {α β : Type} (f : α → β) (o : Operands α) : Operands β :=
  ⟨f o.rs1, f o.rs2⟩

/-- Which of the two register fields an instruction reads. The upper-immediate and `jal` formats
read none, and the second field is part of the immediate, or of a register address, in the others
that have only one. -/
def Control.reads (c : Control) : Operands Bool :=
  if c.system then ⟨true, false⟩
  else
    match c.format with
    | .u | .j => ⟨false, false⟩
    | .i => ⟨true, false⟩
    | .none | .s | .b => ⟨true, true⟩

/-- The source registers of an instruction, zero for a field that is not read. -/
def Instruction.sources (inst : Instruction) (c : Control) : Operands Nat :=
  { rs1 := if c.reads.rs1 then inst.rs1.toNat else 0
    rs2 := if c.reads.rs2 then inst.rs2.toNat else 0 }

end FiveStage
