import FiveStage.Coprocessor.Bank

/-!
# The dispatcher

The dispatcher offers the instruction in the execute stage to the coprocessor that owns its opcode
and combines that unit's answer into the signals the stage acts on, within the same cycle. It counts
how long the current operation has been waiting and warns when that reaches a threshold.
-/

namespace FiveStage

/-- Whether an instruction goes to a coprocessor in this cycle, and to which. -/
structure Detection where
  offloaded : Bool := false
  select : Option Slot := none
  deriving DecidableEq, Repr

/-- What the owning stage shows the dispatcher for one cycle. -/
structure DispatchInputs where
  instruction : Instruction := 0
  valid : Bool := false
  /-- An older stage holds the instruction. -/
  held : Bool := false
  a : Word := 0
  b : Word := 0
  deriving DecidableEq, Repr

/-- What the dispatcher tells the owning stage in one cycle. -/
structure DispatchOutputs where
  offloaded : Bool := false
  select : Option Slot := none
  request : Option Offload := none
  stallRequest : Bool := false
  resultValid : Bool := false
  regWrite : Bool := false
  register : Nat := 0
  data : Word := 0
  exception : Bool := false
  deriving DecidableEq, Repr

/-- Detects an instruction for a coprocessor. There is none in an empty stage, and one that is held
is not offered. -/
def Detection.ofInstruction (inst : Instruction) (valid held : Bool) : Detection :=
  if valid && !held then { offloaded := inst.slot?.isSome, select := inst.slot? } else {}

namespace DispatchInputs

def detection (i : DispatchInputs) : Detection :=
  .ofInstruction i.instruction i.valid i.held

def request (i : DispatchInputs) : Option Offload :=
  if i.detection.offloaded then some { instruction := i.instruction, a := i.a, b := i.b } else none

/-- The outputs that follow from the answer of the addressed unit. -/
def complete (i : DispatchInputs) (detection : Detection) (request : Option Offload)
    (response : CoprocessorResponse) : DispatchOutputs :=
  let rd := i.instruction.rd.toNat
  let resultValid := detection.offloaded && response.ready
  { offloaded := detection.offloaded
    select := detection.select
    request
    stallRequest := detection.offloaded && !response.ready
    resultValid
    regWrite := resultValid && rd != 0
    register := rd
    data := response.data
    exception := detection.offloaded && response.exception }

end DispatchInputs

/-- The dispatcher between cycles. -/
structure Dispatcher where
  /-- The wait at which it warns; zero for never. -/
  warnAfter : Nat
  /-- The cycles that the current operation has been waiting. -/
  waited : Nat := 0
  deriving DecidableEq, Repr

/-- One cycle of the dispatcher and the bank. -/
structure DispatchCycle (σ : Type) where
  outputs : DispatchOutputs
  dispatcher : Dispatcher
  bank : Bank σ
  /-- The warning that the wait has reached the threshold. -/
  warning : Option Event

namespace Dispatcher

variable {σ : Type} [Coprocessor σ]

/-- The wait after a cycle: one more when the unit kept the stage waiting, the same when an older
stage held it, and otherwise none. -/
def nextWaited (d : Dispatcher) (inputs : DispatchInputs) (outputs : DispatchOutputs) : Nat :=
  if outputs.stallRequest then d.waited + 1
  else if inputs.held then d.waited
  else 0

/-- The warning of a cycle after which the wait is `waited`. -/
def warning? (d : Dispatcher) (outputs : DispatchOutputs) (bank : Bank σ) (waited : Nat) :
    Option Event :=
  if outputs.stallRequest && d.warnAfter != 0 && waited == d.warnAfter then
    outputs.select.map fun slot => .starved slot (bank.name slot) waited
  else none

/-- Offers, clocks every unit once, and completes. -/
def cycle (d : Dispatcher) (inputs : DispatchInputs) (bank : Bank σ) : DispatchCycle σ :=
  let detection := inputs.detection
  let request := inputs.request
  let answer := bank.cycle detection.select request
  let outputs := inputs.complete detection request answer.1
  let waited := d.nextWaited inputs outputs
  { outputs
    dispatcher := { d with waited }
    bank := answer.2
    warning := d.warning? outputs answer.2 waited }

end Dispatcher

end FiveStage
