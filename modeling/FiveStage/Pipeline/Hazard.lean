import FiveStage.Word

/-!
# Data hazards and forwarding

An instruction that is being decoded may read a register which an older instruction, now in the
execute or the memory stage, is about to write. This module says when that is so, which value the
operand then has, and which case forwarding cannot serve. All of it is a function of what the two
older stages are about to write.
-/

namespace FiveStage

/-- What the instruction in the execute or memory stage will write. An empty stage writes
nothing. -/
structure Producer where
  register : Nat := 0
  /-- Whether the destination is written. -/
  writes : Bool := false
  /-- The value it will have. -/
  value : Word := 0
  /-- Whether the value comes from memory. -/
  isLoad : Bool := false
  deriving DecidableEq, Repr

/-- Whether the producer writes the register. Nothing writes `x0`. -/
def Producer.produces (p : Producer) (register : Nat) : Bool :=
  register != 0 && p.writes && p.register == register

/-- The dependency of an operand on the instructions in flight. -/
inductive Hazard where
  | none
  /-- The execute or the memory stage writes the operand. -/
  | raw
  deriving DecidableEq, Repr

def Hazard.name : Hazard → String
  | none => "NoHazard"
  | raw => "RawHazard"

/-- The dependency of `register` on the producers in the execute and memory stages. -/
def Hazard.classify (register : Nat) (ex mem : Producer) : Hazard :=
  if ex.produces register || mem.produces register then .raw else .none

/-- Where the value of an operand is taken from. -/
inductive ForwardSource where
  | regFile
  | exResult
  | memAlu
  | memLoad
  deriving DecidableEq, Repr

def ForwardSource.name : ForwardSource → String
  | regFile => "RegFile"
  | exResult => "ExResult"
  | memAlu => "MemAlu"
  | memLoad => "MemLoad"

/-- The value of an operand and where it was taken from. -/
structure Forwarded where
  value : Word
  source : ForwardSource
  deriving DecidableEq, Repr

/-- The freshest value of `register`: from the execute stage if that writes it, else from the
memory stage if that does, else `stored`, its value in the register file. -/
def Forwarded.resolve (register : Nat) (stored : Word) (ex mem : Producer) : Forwarded :=
  if ex.produces register then
    { value := ex.value, source := .exResult }
  else if mem.produces register then
    { value := mem.value, source := if mem.isLoad then .memLoad else .memAlu }
  else
    { value := stored, source := .regFile }

/-- Whether one of the registers is the destination of a load that has not read memory yet. -/
def loadUse (registers : List Nat) (ex : Producer) : Bool :=
  ex.isLoad && registers.any ex.produces

end FiveStage
