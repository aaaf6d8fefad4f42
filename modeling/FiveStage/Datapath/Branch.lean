import FiveStage.Control

/-!
# Branches and jumps

When a branch is taken, where branches and jumps go, and which of the four sources gives the next
program counter. All address sums are modulo `2 ^ 32`.
-/

namespace FiveStage

/-- The condition of a branch. -/
inductive Condition where
  | eq
  | ne
  | lt
  | ge
  | ltu
  | geu
  deriving DecidableEq, Repr

namespace Condition

/-- The condition that a `funct3` value stands for; two of the eight stand for none. -/
def ofFunct3? : Nat → Option Condition
  | 0 => some eq
  | 1 => some ne
  | 4 => some lt
  | 5 => some ge
  | 6 => some ltu
  | 7 => some geu
  | _ => none

/-- Whether the condition holds of two register values. -/
def holds (c : Condition) (a b : Word) : Bool :=
  match c with
  | eq => a == b
  | ne => a != b
  | lt => a.slt b
  | ge => !a.slt b
  | ltu => a.ult b
  | geu => !a.ult b

end Condition

/-- Whether a branch with the given `funct3` is taken. One without a condition never is. -/
def branchTaken (funct3 : Nat) (a b : Word) : Bool :=
  (Condition.ofFunct3? funct3).any (·.holds a b)

namespace Instruction

/-- Where the word at `pc` goes when it is a taken branch. -/
def branchTarget (inst : Instruction) (pc : Word) : Word :=
  pc + inst.immediateB

/-- Where the word at `pc` goes when it is a `jal`. -/
def jalTarget (inst : Instruction) (pc : Word) : Word :=
  pc + inst.immediateJ

/-- Where the word goes when it is a `jalr` over the given base: the sum with bit 0 cleared. -/
def jalrTarget (inst : Instruction) (base : Word) : Word :=
  (base + inst.immediateI) &&& ~~~1#32

end Instruction

/-- The source of the next program counter. -/
inductive PcSource where
  | sequential
  | branch
  | jal
  | jalr
  deriving DecidableEq, Repr

namespace PcSource

def name : PcSource → String
  | sequential => "Sequential"
  | branch => "Branch"
  | jal => "Jal"
  | jalr => "Jalr"

/-- The source that a bundle selects, given whether its branch is taken. -/
def ofControl (c : Control) (taken : Bool) : PcSource :=
  if c.jump then jal
  else if c.jalr then jalr
  else if c.branch && taken then branch
  else sequential

/-- Whether the source differs from the fall-through, which is what fetch assumes. -/
def redirects (s : PcSource) : Bool :=
  s != sequential

/-- The next program counter of the word at `pc`, where `base` is its first operand. -/
def nextPc (s : PcSource) (inst : Instruction) (pc base : Word) : Word :=
  match s with
  | sequential => pc + 4
  | branch => inst.branchTarget pc
  | jal => inst.jalTarget pc
  | jalr => inst.jalrTarget base

end PcSource

end FiveStage
