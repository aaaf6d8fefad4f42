import FiveStage.Pipeline.Latches

/-!
# Cycle reports

The inputs that the environment gives the pipeline in one cycle, and everything that can be observed
of the cycle once it is over.
-/

namespace FiveStage

/-- The input lines of one cycle. -/
structure Inputs where
  externalStall : Bool := false
  interrupt : Bool := false
  deriving DecidableEq, Repr

/-- What can be observed of one cycle. -/
structure Report where
  /-- The number of the cycle; the first is zero. -/
  cycle : Nat := 0
  interlock : Interlock := {}
  pcBefore : Word := 0
  pcAfter : Word := 0
  forwards : Operands ForwardSource := ⟨.regFile, .regFile⟩
  hazards : Operands Hazard := ⟨.none, .none⟩
  dispatch : DispatchOutputs := {}
  retired : Option MemWb := none
  trap : Option Trap := none
  deriving DecidableEq, Repr

namespace Report

def stalled (r : Report) : Bool :=
  !r.interlock.stalls.isEmpty

def flushed (r : Report) : Bool :=
  !r.interlock.flushes.isEmpty

end Report

end FiveStage
