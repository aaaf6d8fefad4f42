import FiveStage.Configuration
import FiveStage.Coprocessor.FixedLatencyUnit
import FiveStage.Coprocessor.SystemUnit
import FiveStage.Datapath.Branch
import FiveStage.Datapath.Lanes
import FiveStage.Memory.Storage
import FiveStage.Operands
import FiveStage.RegisterFile

/-!
# The sequential machine

The machine that a program is written for. It executes one instruction at a time, each of them
completely before the next, so it has no latches, no waits and no hazards; between any two
instructions it may take an interrupt. What the pipeline commits is to be compared with what this
machine commits.
-/

namespace FiveStage

/-- What an instruction that was executed leaves for the outside. -/
structure Commit where
  pc : Word
  inst : Instruction
  rd : Nat
  /-- The value written to `rd`, if it was written. -/
  value : Option Word
  deriving DecidableEq, Repr

/-- The state that instructions see. -/
structure Machine where
  pc : Word
  regs : RegisterFile
  /-- The memory that instructions are fetched from. -/
  code : Storage
  /-- The memory that they load from and store to. -/
  data : Storage
  /-- What the coprocessor CP1 computes. -/
  operation : Operation
  /-- The control and status registers. Only the pipeline has cycles, so `cycle` never moves. -/
  csrs : SystemUnit := {}
  lastTrap : Option Trap := none

/-- What one step of the machine did. -/
inductive MachineStep where
  /-- There was nothing to execute in the word. -/
  | skipped (next : Machine)
  | committed (commit : Commit) (next : Machine)
  | trapped (trap : Trap) (next : Machine)

namespace MachineStep

/-- The machine after the step. -/
def next : MachineStep → Machine
  | skipped next => next
  | committed _ next => next
  | trapped _ next => next

/-- What the step committed. -/
def commit? : MachineStep → Option Commit
  | committed commit _ => some commit
  | _ => none

def trap? : MachineStep → Option Trap
  | trapped trap _ => some trap
  | _ => none

end MachineStep

/-- What happens between two states of the machine. -/
inductive Move where
  | execute
  | interrupt
  deriving DecidableEq, Repr

namespace Machine

/-- Takes a trap: records it and goes on at `target`. -/
def takeTrap (m : Machine) (trap : Trap) (target : Word) : MachineStep :=
  .trapped trap
    { m with pc := target, csrs := m.csrs.trapTaken trap, lastTrap := some trap }

/-- Commits the instruction at `pc`: writes its register, unless that is `x0`, and goes on at
`target`. -/
def finish (m : Machine) (inst : Instruction) (value : Option Word) (target : Word) :
    MachineStep :=
  let rd := inst.rd.toNat
  let value := value.filter fun _ => rd != 0
  .committed { pc := m.pc, inst, rd, value }
    { m with
      pc := target
      regs := match value with
        | some v => m.regs.write rd v
        | none => m.regs
      csrs := m.csrs.retired }

/-- The answer of the coprocessor in a slot, and the control and status registers after it. -/
def offload (m : Machine) (slot : Slot) (req : Offload) : CoprocessorResponse × SystemUnit :=
  match slot with
  | .cp0 => m.csrs.execute req
  | .cp1 => (FixedLatencyUnit.completion m.operation req, m.csrs)
  | .cp2 | .cp3 => ({ ready := true, data := req.a }, m.csrs)

/-- Executes an instruction of a coprocessor. -/
def executeOffload (m : Machine) (settings : PipelineSettings) (slot : Slot) (req : Offload) :
    MachineStep :=
  let answer := m.offload slot req
  if answer.1.exception then
    m.takeTrap { cause := .coprocessorException slot req.instruction, pc := m.pc }
      settings.trapVector
  else
    { m with csrs := answer.2 }.finish req.instruction (some answer.1.data) (m.pc + 4)

/-- Executes any other instruction. -/
def executeInteger (m : Machine) (inst : Instruction) (a b : Word) : MachineStep :=
  let ctrl := Control.decode inst
  let funct3 := inst.funct3.toNat
  let sum :=
    ctrl.aluOp.eval (if ctrl.auipc then m.pc else a)
      (if ctrl.aluSrc then inst.immediate ctrl.format else b)
  let target :=
    (PcSource.ofControl ctrl (ctrl.branch && branchTaken funct3 a b)).nextPc inst m.pc a
  let value :=
    if ctrl.jump || ctrl.jalr then m.pc + 4
    else if ctrl.memRead then Lanes.loadData funct3 sum (m.data.read sum)
    else sum
  let data :=
    if ctrl.memWrite then
      m.data.write sum (Lanes.storeData funct3 sum b) (Lanes.byteEnable funct3 sum)
    else m.data
  { m with data }.finish inst (if ctrl.regWrite then some value else none) target

/-- Executes the instruction at `pc`. -/
def execute (m : Machine) (settings : PipelineSettings) : MachineStep :=
  let inst : Instruction := m.code.read m.pc
  if inst.isUnrecognised then .skipped { m with pc := m.pc + 4 }
  else
    let values := (inst.sources (Control.decode inst)).map m.regs.read
    match inst.slot? with
    | some slot =>
        m.executeOffload settings slot { instruction := inst, a := values.rs1, b := values.rs2 }
    | none => m.executeInteger inst values.rs1 values.rs2

/-- Takes an interrupt before the instruction at `pc`. -/
def interrupt (m : Machine) (settings : PipelineSettings) : MachineStep :=
  m.takeTrap { cause := .externalInterrupt, pc := m.pc } settings.interruptVector

def step (m : Machine) (settings : PipelineSettings) : Move → MachineStep
  | .execute => m.execute settings
  | .interrupt => m.interrupt settings

/-- The machine after some moves. -/
def run (m : Machine) (settings : PipelineSettings) (moves : List Move) : Machine :=
  moves.foldl (fun m move => (m.step settings move).next) m

/-- What the machine commits in some moves, in order. -/
def commits (m : Machine) (settings : PipelineSettings) : List Move → List Commit
  | [] => []
  | move :: rest =>
      let done := m.step settings move
      done.commit?.toList ++ done.next.commits settings rest

theorem run_cons (m : Machine) (settings : PipelineSettings) (move : Move) (moves : List Move) :
    m.run settings (move :: moves) = (m.step settings move).next.run settings moves := rfl

theorem run_append (m : Machine) (settings : PipelineSettings) (moves more : List Move) :
    m.run settings (moves ++ more) = (m.run settings moves).run settings more := by
  simp [run]

theorem commits_append (m : Machine) (settings : PipelineSettings) (moves more : List Move) :
    m.commits settings (moves ++ more) =
      m.commits settings moves ++ (m.run settings moves).commits settings more := by
  induction moves generalizing m with
  | nil => rfl
  | cons move moves ih => simp [commits, run_cons, ih]

end Machine

end FiveStage
