import FiveStage.Instruction.Fields

/-!
# Immediates

The five immediate formats of the base instruction set. Each immediate is the sign-extended
concatenation of its fields, so a negative one is its two's complement word.
-/

namespace FiveStage

/-- The immediate format of an instruction. -/
inductive ImmediateFormat where
  | none
  | i
  | s
  | b
  | u
  | j
  deriving DecidableEq, Repr

namespace ImmediateFormat

/-- All formats, the empty one first. -/
def all : List ImmediateFormat :=
  [none, i, s, b, u, j]

/-- The letter of the format, or `None`. -/
def name : ImmediateFormat → String
  | none => "None"
  | i => "I"
  | s => "S"
  | b => "B"
  | u => "U"
  | j => "J"

end ImmediateFormat

namespace Instruction

/-- The twelve-bit immediate of loads, `jalr` and immediate arithmetic. -/
def immediateI (inst : Instruction) : Word :=
  (inst.extractLsb' 20 12).signExtend 32

/-- The twelve-bit immediate of stores. -/
def immediateS (inst : Instruction) : Word :=
  (inst.extractLsb' 25 7 ++ inst.extractLsb' 7 5).signExtend 32

/-- The thirteen-bit even offset of branches. -/
def immediateB (inst : Instruction) : Word :=
  (inst.extractLsb' 31 1 ++ inst.extractLsb' 7 1 ++ inst.extractLsb' 25 6 ++
    inst.extractLsb' 8 4 ++ 0#1).signExtend 32

/-- The upper twenty bits of a word, in place. -/
def immediateU (inst : Instruction) : Word :=
  inst.extractLsb' 12 20 ++ 0#12

/-- The twenty-one-bit even offset of `jal`. -/
def immediateJ (inst : Instruction) : Word :=
  (inst.extractLsb' 31 1 ++ inst.extractLsb' 12 8 ++ inst.extractLsb' 20 1 ++
    inst.extractLsb' 21 10 ++ 0#1).signExtend 32

/-- The immediate of the given format; zero for the empty format. -/
def immediate (inst : Instruction) : ImmediateFormat → Word
  | .none => 0
  | .i => inst.immediateI
  | .s => inst.immediateS
  | .b => inst.immediateB
  | .u => inst.immediateU
  | .j => inst.immediateJ

end Instruction

end FiveStage
