import FiveStage.Word

/-!
# The integer unit

Three groups of operations on two words: arithmetic, logic with comparison, and shifts. A group
answers zero for an operation that belongs to another one, and `AluOp.eval` asks the group that
owns the operation.
-/

namespace FiveStage

/-- An operation of the integer unit. -/
inductive AluOp where
  | add
  | sub
  | sll
  | slt
  | sltu
  | xor
  | srl
  | sra
  | or
  | and
  | copyB
  deriving DecidableEq, Repr

namespace AluOp

def all : List AluOp :=
  [add, sub, sll, slt, sltu, xor, srl, sra, or, and, copyB]

def name : AluOp → String
  | add => "Add"
  | sub => "Sub"
  | sll => "Sll"
  | slt => "Slt"
  | sltu => "Sltu"
  | xor => "Xor"
  | srl => "Srl"
  | sra => "Sra"
  | or => "Or"
  | and => "And"
  | copyB => "CopyB"

/-- Sum and difference modulo `2 ^ 32`, and the second operand itself. -/
def arithmetic (op : AluOp) (a b : Word) : Word :=
  match op with
  | add => a + b
  | sub => a - b
  | copyB => b
  | _ => 0

/-- Bitwise operations and the two comparisons, which answer one or zero. -/
def logic (op : AluOp) (a b : Word) : Word :=
  match op with
  | or => a ||| b
  | and => a &&& b
  | xor => a ^^^ b
  | slt => if a.slt b then 1 else 0
  | sltu => if a.ult b then 1 else 0
  | _ => 0

/-- Shifts by the low five bits of the second operand. -/
def shift (op : AluOp) (a b : Word) : Word :=
  let amount := b.toNat % 32
  match op with
  | sll => a <<< amount
  | srl => a >>> amount
  | sra => a.sshiftRight amount
  | _ => 0

/-- The result of an operation. -/
def eval (op : AluOp) (a b : Word) : Word :=
  match op with
  | add | sub | copyB => op.arithmetic a b
  | or | and | xor | slt | sltu => op.logic a b
  | sll | srl | sra => op.shift a b

end AluOp

end FiveStage
