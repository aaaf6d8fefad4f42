import FiveStage.Coprocessor.Dispatcher
import FiveStage.Datapath.Lanes
import FiveStage.Memory.Port
import FiveStage.Operands

/-!
# Pipeline latches

The entries that travel between the stages, how one entry becomes the next, and what the clock edge
does to the four latches. An empty latch is a bubble.
-/

namespace FiveStage

/-- An instruction between fetch and decode. -/
structure IfId where
  pc : Word
  inst : Instruction
  deriving DecidableEq, Repr

/-- An instruction between decode and execute. Its operand values are final. -/
structure IdEx where
  pc : Word
  inst : Instruction
  /-- The source registers, zero for an operand that is not read. -/
  rs1 : Nat
  rs2 : Nat
  rd : Nat
  imm : Word
  /-- The values of the source operands. -/
  rv1 : Word
  rv2 : Word
  ctrl : Control
  deriving DecidableEq, Repr

/-- An instruction between execute and the memory stage. -/
structure ExMem where
  pc : Word
  inst : Instruction
  rd : Nat
  /-- Whether it writes `rd`, which is then not `x0`. -/
  writes : Bool
  /-- The result, or the address of a load or store. -/
  result : Word
  /-- The register value that a store stores. -/
  storeData : Word
  /-- The coprocessor that executed it, if one did. -/
  coprocessor : Option Slot
  ctrl : Control
  deriving DecidableEq, Repr

/-- An instruction between the memory stage and writeback, and one that retires. -/
structure MemWb where
  pc : Word
  inst : Instruction
  rd : Nat
  writes : Bool
  value : Word
  coprocessor : Option Slot
  ctrl : Control
  deriving DecidableEq, Repr

/-- The result of an instruction that no coprocessor executes. The first operand is the address of
the instruction for `auipc`; a jump leaves the address after it. -/
def IdEx.integerResult (e : IdEx) : ExMem :=
  let a := if e.ctrl.auipc then e.pc else e.rv1
  let b := if e.ctrl.aluSrc then e.imm else e.rv2
  { pc := e.pc
    inst := e.inst
    rd := e.rd
    writes := e.ctrl.regWrite && e.rd != 0
    result := if e.ctrl.jump || e.ctrl.jalr then e.pc + 4 else e.ctrl.aluOp.eval a b
    storeData := e.rv2
    coprocessor := none
    ctrl := e.ctrl }

namespace ExMem

/-- What the instruction will write, as far as execute knows. For a load the value is only its
address. -/
def producer (e : ExMem) : Producer :=
  { register := e.rd, writes := e.writes, value := e.result, isLoad := e.ctrl.memRead }

/-- The data access that the instruction makes, if it makes one. -/
def request? (e : ExMem) : Option MemoryRequest :=
  let funct3 := e.inst.funct3.toNat
  if e.ctrl.memWrite then
    some
      { address := e.result
        isWrite := true
        data := Lanes.storeData funct3 e.result e.storeData
        byteEnable := Lanes.byteEnable funct3 e.result }
  else if e.ctrl.memRead then some (.read e.result)
  else none

/-- The instruction with the value that it writes. -/
def complete (e : ExMem) (value : Word) : MemWb :=
  { pc := e.pc, inst := e.inst, rd := e.rd, writes := e.writes, value,
    coprocessor := e.coprocessor, ctrl := e.ctrl }

/-- The instruction after its data access read `data`. -/
def accessed (e : ExMem) (data : Word) : MemWb :=
  e.complete <|
    if e.ctrl.memRead then Lanes.loadData e.inst.funct3.toNat e.result data else e.result

end ExMem

def MemWb.producer (e : MemWb) : Producer :=
  { register := e.rd, writes := e.writes, value := e.value, isLoad := e.ctrl.memRead }

/-- The four latches, or four entries on their way into them. -/
structure Latches where
  ifId : Option IfId := none
  idEx : Option IdEx := none
  exMem : Option ExMem := none
  memWb : Option MemWb := none
  deriving DecidableEq, Repr

namespace Latches

/-- The entry that a latch holds after the clock edge. It keeps the instruction in its stage if that
is held; otherwise it takes what the stage before hands on, if that stage advances. -/
def nextEntry {α : Type} (interlock : Interlock) (stage : Stage) (current incoming : Option α) :
    Option α :=
  if interlock.fate stage = .hold then current
  else
    match stage.feeder? with
    | some before => if interlock.fate before = .advance then incoming else none
    | none => none

/-- The latches after the clock edge. -/
def next (interlock : Interlock) (current incoming : Latches) : Latches where
  ifId := nextEntry interlock .decode current.ifId incoming.ifId
  idEx := nextEntry interlock .execute current.idEx incoming.idEx
  exMem := nextEntry interlock .memory current.exMem incoming.exMem
  memWb := nextEntry interlock .writeback current.memWb incoming.memWb

def isEmpty (l : Latches) : Bool :=
  l.ifId.isNone && l.idEx.isNone && l.exMem.isNone && l.memWb.isNone

/-- The address of the oldest instruction that has not reached writeback. -/
def oldestPc? (l : Latches) : Option Word :=
  (l.exMem.map (·.pc)).or ((l.idEx.map (·.pc)).or (l.ifId.map (·.pc)))

end Latches

end FiveStage
