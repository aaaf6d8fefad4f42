import FiveStage.Instruction.Assembly
import FiveStage.Slot

/-!
# Traps

A trap is an architectural event of the pipeline: a coprocessor raised its exception line, or the
external interrupt line was up. It is recorded with the address at which execution would resume.
-/

namespace FiveStage

/-- Why a trap was taken. -/
inductive TrapCause where
  /-- The unit in `slot` raised its exception line for `instruction`. -/
  | coprocessorException (slot : Slot) (instruction : Instruction)
  /-- The external interrupt line. -/
  | externalInterrupt
  deriving DecidableEq, Repr

namespace TrapCause

/-- The value of `mcause`. An environment call and a breakpoint have codes of their own; every
other exception counts as an illegal instruction. -/
def mcause : TrapCause → Word
  | coprocessorException _ instruction =>
      if instruction = Instruction.ecall then 11
      else if instruction = Instruction.ebreak then 3
      else 2
  | externalInterrupt => 0x8000000B

def isInterrupt : TrapCause → Bool
  | coprocessorException .. => false
  | externalInterrupt => true

/-- The slot that raised the trap, if a unit did. -/
def slot? : TrapCause → Option Slot
  | coprocessorException slot _ => some slot
  | externalInterrupt => none

def text : TrapCause → String
  | coprocessorException slot instruction =>
      slot.label ++ " exception on " ++ Word.hex instruction
  | externalInterrupt => "external interrupt"

end TrapCause

/-- A trap that the pipeline took. -/
structure Trap where
  cause : TrapCause
  /-- The address of the instruction that raised it, or of the first one that an interrupt
  discarded. -/
  pc : Word
  deriving DecidableEq, Repr

def Trap.text (t : Trap) : String :=
  t.cause.text ++ " (pc=" ++ t.pc.hex ++ ")"

end FiveStage
