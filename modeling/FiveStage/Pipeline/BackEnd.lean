import FiveStage.Pipeline.Latches
import FiveStage.RegisterFile

/-!
# The back end: execute, memory, writeback

What each of the three older stages does in one cycle. A stage sees the stalls and flushes that the
stages older than itself have asked for, and its outcome says what it asks for in turn, what it
hands on, and what it will write.
-/

namespace FiveStage

/-- The instruction that writeback commits, if nothing holds it. -/
def retire (interlock : Interlock) (entry : Option MemWb) : Option MemWb :=
  entry.filter fun _ => interlock.fate .writeback == .advance

/-- The registers after an instruction is committed. -/
def RegisterFile.commit (regs : RegisterFile) (retired : Option MemWb) : RegisterFile :=
  match retired with
  | some e => if e.writes then regs.write e.rd e.value else regs
  | none => regs

/-- What the memory stage did in one cycle. -/
inductive MemoryOutcome where
  /-- It had no instruction to work on. -/
  | idle
  /-- The data port did not answer. -/
  | waiting (pc address : Word)
  | done (entry : MemWb)
  deriving DecidableEq, Repr

namespace MemoryOutcome

def latched? : MemoryOutcome → Option MemWb
  | done entry => some entry
  | _ => none

def producer : MemoryOutcome → Producer
  | done entry => entry.producer
  | _ => {}

/-- The interlock after what the stage asks for. -/
def apply (interlock : Interlock) : MemoryOutcome → Interlock
  | waiting .. => interlock.stall .memoryNotReady .memory
  | _ => interlock

def events : MemoryOutcome → List Event
  | waiting pc address => [.dataPortWaiting pc address]
  | _ => []

end MemoryOutcome

/-- One cycle of the memory stage. A load or store is presented to the data port unless the stage is
flushed or held, so a store takes effect in the very cycle in which it moves on. -/
def memoryStage {δ : Type} [MemoryPort δ] (interlock : Interlock) (entry : Option ExMem)
    (port : δ) : MemoryOutcome × δ :=
  match entry with
  | none => (.idle, port)
  | some e =>
      if interlock.flushed .memory || interlock.heldByOlder .memory then (.idle, port)
      else
        match e.request? with
        | none => (.done (e.complete e.result), port)
        | some req =>
            let answer := MemoryPort.access port req
            (if answer.1.ready then .done (e.accessed answer.1.data)
              else .waiting e.pc req.address, answer.2)

/-- What the execute stage did in one cycle. -/
inductive ExecuteOutcome where
  /-- It had no instruction to work on. -/
  | idle
  /-- The addressed coprocessor is not ready. -/
  | waiting
  /-- The addressed coprocessor raised its exception line. -/
  | trapped (trap : Trap) (target : Word)
  | done (entry : ExMem)
  deriving DecidableEq, Repr

namespace ExecuteOutcome

def latched? : ExecuteOutcome → Option ExMem
  | done entry => some entry
  | _ => none

def producer : ExecuteOutcome → Producer
  | done entry => entry.producer
  | _ => {}

def trap? : ExecuteOutcome → Option Trap
  | trapped trap _ => some trap
  | _ => none

/-- The interlock after what the stage asks for. -/
def apply (interlock : Interlock) : ExecuteOutcome → Interlock
  | waiting => interlock.stall .coprocessorNotReady .execute
  | trapped _ target => interlock.flush .exception .execute target
  | _ => interlock

def events : ExecuteOutcome → List Event
  | trapped trap target => [.exceptionTaken trap target]
  | _ => []

end ExecuteOutcome

/-- What the execute stage shows the dispatcher: its instruction, if that is for a coprocessor. -/
def dispatchInputs (entry : Option IdEx) (held : Bool) : DispatchInputs :=
  match entry with
  | some e =>
      if e.inst.slot?.isSome then
        { instruction := e.inst, valid := true, held, a := e.rv1, b := e.rv2 }
      else {}
  | none => {}

/-- The outcome for an instruction that may proceed. The exception line of a coprocessor counts
before its readiness. -/
def ExecuteOutcome.resolve (e : IdEx) (out : DispatchOutputs) (trapVector : Word) :
    ExecuteOutcome :=
  if out.offloaded then
    match out.select with
    | none => .idle
    | some slot =>
        if out.exception then
          .trapped { cause := .coprocessorException slot e.inst, pc := e.pc } trapVector
        else if out.stallRequest then .waiting
        else
          .done
            { e.integerResult with
              writes := out.regWrite, result := out.data, coprocessor := some slot }
  else .done e.integerResult

/-- One cycle of the execute stage. The dispatcher runs in every cycle, so every coprocessor is
clocked once whether or not the stage has work for it. -/
def executeStage {σ : Type} [Coprocessor σ] (interlock : Interlock) (trapVector : Word)
    (entry : Option IdEx) (dispatcher : Dispatcher) (bank : Bank σ) :
    ExecuteOutcome × DispatchCycle σ :=
  let entry := entry.filter fun _ => !interlock.flushed .execute
  let held := interlock.heldByOlder .execute
  let cycle := dispatcher.cycle (dispatchInputs entry held) bank
  let outcome :=
    match entry with
    | some e => if held then .idle else .resolve e cycle.outputs trapVector
    | none => .idle
  (outcome, cycle)

end FiveStage
