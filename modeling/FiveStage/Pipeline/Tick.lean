import FiveStage.Configuration
import FiveStage.Pipeline.BackEnd
import FiveStage.Pipeline.FrontEnd
import FiveStage.Statistics.Basic

/-!
# The pipeline

The five-stage pipeline over two memory ports and a bank of coprocessors. `Pipeline.tick` is one
clock cycle. `Core.evaluate` lets the stages work, the oldest first, so that each sees what the
older ones have asked for and decode reads registers already written; `Cycle.edge` then moves the
latches and the program counter and tells the coprocessors what happened.
-/

namespace FiveStage

/-- The pipeline without its memory ports and coprocessors. -/
structure Core where
  pc : Word
  latches : Latches := {}
  regs : RegisterFile := .zero
  dispatcher : Dispatcher
  settings : PipelineSettings
  trace : Bool
  lastTrap : Option Trap := none
  stats : Statistics := {}
  /-- The number of cycles done. -/
  cycle : Nat := 0
  deriving DecidableEq, Repr

/-- A pipeline with an instruction port, a data port and a bank of coprocessors. -/
structure Pipeline (ι δ σ : Type) where
  core : Core
  imem : ι
  dmem : δ
  bank : Bank σ

/-- What the stages did in one cycle, before the clock edge. -/
structure Cycle (ι δ σ : Type) where
  interrupt : Option Trap
  retired : Option MemWb
  memory : MemoryOutcome
  execute : ExecuteOutcome
  dispatch : DispatchCycle σ
  decode : DecodeOutcome
  fetch : FetchOutcome
  interlock : Interlock
  regs : RegisterFile
  imem : ι
  dmem : δ

/-- The answer of one clock cycle. -/
structure Tick (ι δ σ : Type) where
  next : Pipeline ι δ σ
  report : Report
  events : List Event

namespace Core

/-- The pipeline after reset. -/
def reset (config : Configuration) : Core where
  pc := config.pipeline.resetPc
  dispatcher := { warnAfter := config.pipeline.starvationWarnCycles }
  settings := config.pipeline
  trace := config.general.traceInstructions

/-- The address at which execution resumes after an interrupt: that of the oldest instruction which
has not reached writeback, or the one about to be fetched. -/
def resumePc (p : Core) : Word :=
  p.latches.oldestPc?.getD p.pc

/-- The interrupt of a cycle, if its line is up. -/
def interrupt? (p : Core) (inputs : Inputs) : Option Trap :=
  if inputs.interrupt then some { cause := .externalInterrupt, pc := p.resumePc } else none

/-- What the environment asks for. -/
def requested (p : Core) (inputs : Inputs) : Interlock :=
  let c : Interlock := {}
  let c := if inputs.externalStall then c.stall .externalStall .writeback else c
  if inputs.interrupt then c.flush .interrupt .memory p.settings.interruptVector else c

variable {ι δ σ : Type} [MemoryPort ι] [MemoryPort δ] [Coprocessor σ]

/-- Lets every stage work for one cycle. -/
def evaluate (p : Core) (imem : ι) (dmem : δ) (bank : Bank σ) (inputs : Inputs) :
    Cycle ι δ σ :=
  let asked := p.requested inputs
  let retired := retire asked p.latches.memWb
  let regs := p.regs.commit retired
  let memory := memoryStage asked p.latches.exMem dmem
  let asked := memory.1.apply asked
  let execute := executeStage asked p.settings.trapVector p.latches.idEx p.dispatcher bank
  let asked := execute.1.apply asked
  let decode :=
    decodeStage asked p.settings.forwarding p.latches.ifId regs execute.1.producer
      memory.1.producer
  let asked := decode.apply asked
  let fetch := fetchStage asked p.pc imem
  { interrupt := p.interrupt? inputs
    retired
    memory := memory.1
    execute := execute.1
    dispatch := execute.2
    decode
    fetch := fetch.1
    interlock := fetch.1.apply asked
    regs
    imem := fetch.2
    dmem := memory.2 }

end Core

namespace Cycle

variable {ι δ σ : Type}

/-- The entries on their way into the latches. -/
def incoming (c : Cycle ι δ σ) : Latches where
  ifId := c.fetch.latched?
  idEx := c.decode.latched?
  exMem := c.execute.latched?
  memWb := c.memory.latched?

def trap? (c : Cycle ι δ σ) : Option Trap :=
  c.execute.trap?.or c.interrupt

/-- The program counter after the clock edge: the target of a flush, else the next word if one was
fetched and nothing stalls. -/
def nextPc (c : Cycle ι δ σ) (pc : Word) : Word :=
  match c.interlock.target with
  | some target => target
  | none => if c.interlock.stallPoint.isSome || c.fetch.latched?.isNone then pc else pc + 4

/-- The report of the cycle that `p` started from. -/
def report (c : Cycle ι δ σ) (p : Core) : Report where
  cycle := p.cycle
  interlock := c.interlock
  pcBefore := p.pc
  pcAfter := c.nextPc p.pc
  forwards := c.decode.forwards
  hazards := c.decode.hazards
  dispatch := c.dispatch.outputs
  retired := c.retired
  trap := c.trap?

/-- The events of the stages, in the order in which the stages work. -/
def stageEvents (c : Cycle ι δ σ) (p : Core) : List Event :=
  let interrupted := c.interrupt.toList.map fun trap =>
    Event.interruptTaken trap p.settings.interruptVector
  let committed := c.retired.toList.filterMap fun e =>
    if p.trace then some (Event.retired e.pc e.inst e.rd e.value) else none
  interrupted ++ committed ++ c.memory.events ++ c.dispatch.warning.toList ++ c.execute.events ++
    c.decode.events ++ c.fetch.events

def edgeEvents (c : Cycle ι δ σ) (p : Core) : List Event :=
  if c.interlock.stalls.isEmpty && c.interlock.flushes.isEmpty then []
  else [.suppressed p.cycle c.interlock]

variable [Coprocessor σ]

/-- The coprocessors after they are told whether an instruction retired. -/
def notifiedBank (c : Cycle ι δ σ) : Bank σ :=
  if c.retired.isSome then c.dispatch.bank.retired else c.dispatch.bank

/-- The coprocessors after they are told of the trap as well. -/
def nextBank (c : Cycle ι δ σ) : Bank σ :=
  match c.trap? with
  | some trap => c.notifiedBank.trapTaken trap
  | none => c.notifiedBank

def bankEvents (c : Cycle ι δ σ) : List Event :=
  match c.trap? with
  | some trap => c.notifiedBank.trapEvents trap
  | none => []

/-- The core after the clock edge. -/
def nextCore (c : Cycle ι δ σ) (p : Core) (report : Report) : Core :=
  { p with
    pc := report.pcAfter
    latches := p.latches.next c.interlock c.incoming
    regs := c.regs
    dispatcher := c.dispatch.dispatcher
    lastTrap := c.trap?.or p.lastTrap
    stats := p.stats.record report
    cycle := p.cycle + 1 }

def edge (c : Cycle ι δ σ) (p : Core) : Tick ι δ σ :=
  let report := c.report p
  { next :=
      { core := c.nextCore p report, imem := c.imem, dmem := c.dmem, bank := c.nextBank }
    report
    events := c.stageEvents p ++ c.edgeEvents p ++ c.bankEvents }

end Cycle

namespace Pipeline

variable {ι δ σ : Type}

/-- A pipeline after reset. -/
def create (config : Configuration) (imem : ι) (dmem : δ) (bank : Bank σ) : Pipeline ι δ σ where
  core := .reset config
  imem
  dmem
  bank

/-- One clock cycle. -/
def tick [MemoryPort ι] [MemoryPort δ] [Coprocessor σ] (p : Pipeline ι δ σ) (inputs : Inputs) :
    Tick ι δ σ :=
  match p with
  | { core, imem, dmem, bank } => (core.evaluate imem dmem bank inputs).edge core

def isDrained (p : Pipeline ι δ σ) : Bool :=
  p.core.latches.isEmpty

/-- How long the operation in the execute stage has been waiting for its coprocessor. -/
def coprocessorWait (p : Pipeline ι δ σ) : Nat :=
  p.core.dispatcher.waited

end Pipeline

end FiveStage
