import FiveStage.Pipeline.Latches
import FiveStage.RegisterFile

/-!
# The front end: fetch and decode

What the two younger stages do in one cycle. Decode reads the registers after writeback has written
them, takes operands from the instructions in flight, waits where it cannot, and resolves branches;
fetch follows the program counter on the assumption that nothing branches.
-/

namespace FiveStage

/-- What the decode stage did in one cycle. -/
inductive DecodeOutcome where
  /-- It had no instruction to work on. -/
  | idle
  /-- Its word is no instruction and becomes a bubble. -/
  | dropped (entry : IfId)
  /-- An operand is being loaded into `register`. -/
  | loadUse (entry : IfId) (hazards : Operands Hazard) (register : Nat)
  /-- An operand is in flight and forwarding is off. -/
  | rawHazard (entry : IfId) (hazards : Operands Hazard)
  /-- It is done with an instruction, which may redirect fetch. -/
  | issued (entry : IdEx) (hazards : Operands Hazard) (operands : Operands Forwarded)
      (redirect : Option (PcSource × Word))
  deriving DecidableEq, Repr

namespace DecodeOutcome

def latched? : DecodeOutcome → Option IdEx
  | issued entry .. => some entry
  | _ => none

def hazards : DecodeOutcome → Operands Hazard
  | loadUse _ hazards _ => hazards
  | rawHazard _ hazards => hazards
  | issued _ hazards _ _ => hazards
  | _ => ⟨.none, .none⟩

def forwards : DecodeOutcome → Operands ForwardSource
  | issued _ _ operands _ => operands.map (·.source)
  | _ => ⟨.regFile, .regFile⟩

/-- The interlock after what the stage asks for. -/
def apply (interlock : Interlock) : DecodeOutcome → Interlock
  | loadUse .. => interlock.stall .loadUseHazard .decode
  | rawHazard .. => interlock.stall .rawHazard .decode
  | issued _ _ _ (some (_, target)) => interlock.flush .branchMispredict .fetch target
  | _ => interlock

/-- The event of an operand that was taken from an instruction in flight. -/
def forwardEvents (pc : Word) (register : Nat) (operand : Forwarded) : List Event :=
  if operand.source = .regFile then [] else [.forwarded pc register operand]

def events : DecodeOutcome → List Event
  | idle => []
  | dropped entry => [.unrecognised entry.pc entry.inst]
  | loadUse entry _ register => [.loadUse entry.pc register]
  | rawHazard entry _ => [.rawHazard entry.pc]
  | issued entry _ operands redirect =>
      forwardEvents entry.pc entry.rs1 operands.rs1 ++
        forwardEvents entry.pc entry.rs2 operands.rs2 ++
        match redirect with
        | some (select, target) => [.redirected entry.pc select target]
        | none => []

end DecodeOutcome

/-- Hands an instruction on with its operands, and redirects fetch if it branches. -/
def IfId.issue (entry : IfId) (ctrl : Control) (sources : Operands Nat)
    (hazards : Operands Hazard) (operands : Operands Forwarded) : DecodeOutcome :=
  let inst := entry.inst
  let a := operands.rs1.value
  let b := operands.rs2.value
  let taken := ctrl.branch && branchTaken inst.funct3.toNat a b
  let select := PcSource.ofControl ctrl taken
  .issued
    { pc := entry.pc, inst, rs1 := sources.rs1, rs2 := sources.rs2, rd := inst.rd.toNat,
      imm := inst.immediate ctrl.format, rv1 := a, rv2 := b, ctrl }
    hazards operands
    (if select.redirects then some (select, select.nextPc inst entry.pc a) else none)

/-- Decodes an instruction against the registers and what the older stages will write. A load that
has not read memory is waited for; without forwarding, so is every operand in flight. -/
def IfId.decode (entry : IfId) (forwarding : Bool) (regs : RegisterFile) (ex mem : Producer) :
    DecodeOutcome :=
  if entry.inst.isUnrecognised then .dropped entry
  else
    let ctrl := Control.decode entry.inst
    let sources := entry.inst.sources ctrl
    let hazards := sources.map (Hazard.classify · ex mem)
    if FiveStage.loadUse [sources.rs1, sources.rs2] ex then .loadUse entry hazards ex.register
    else if !forwarding && (hazards.rs1 == .raw || hazards.rs2 == .raw) then
      .rawHazard entry hazards
    else
      entry.issue ctrl sources hazards
        (sources.map fun r => Forwarded.resolve r (regs.read r) ex mem)

/-- One cycle of the decode stage. -/
def decodeStage (interlock : Interlock) (forwarding : Bool) (entry : Option IfId)
    (regs : RegisterFile) (ex mem : Producer) : DecodeOutcome :=
  match entry with
  | none => .idle
  | some e =>
      if interlock.flushed .decode || interlock.heldByOlder .decode then .idle
      else e.decode forwarding regs ex mem

/-- What the fetch stage did in one cycle. -/
inductive FetchOutcome where
  /-- It made no request. -/
  | idle
  /-- The instruction port did not answer. -/
  | waiting (pc : Word)
  | fetched (entry : IfId)
  deriving DecidableEq, Repr

namespace FetchOutcome

def latched? : FetchOutcome → Option IfId
  | fetched entry => some entry
  | _ => none

/-- The interlock after what the stage asks for. -/
def apply (interlock : Interlock) : FetchOutcome → Interlock
  | waiting _ => interlock.stall .memoryNotReady .fetch
  | _ => interlock

def events : FetchOutcome → List Event
  | waiting pc => [.fetchWaiting pc]
  | _ => []

end FetchOutcome

/-- One cycle of the fetch stage. It makes no request in a cycle with a flush, whose target is
fetched next, nor while an older stage holds it. -/
def fetchStage {ι : Type} [MemoryPort ι] (interlock : Interlock) (pc : Word) (port : ι) :
    FetchOutcome × ι :=
  if interlock.redirect.isSome || interlock.heldByOlder .fetch then (.idle, port)
  else
    let answer := MemoryPort.access port (.read pc)
    (if answer.1.ready then .fetched { pc, inst := answer.1.data } else .waiting pc, answer.2)

end FiveStage
