import FiveStage.Datapath.Branch
import FiveStage.Pipeline.Interlock
import FiveStage.Pipeline.Hazard
import FiveStage.Text.Notation
import FiveStage.Trap

/-!
# Events

What the model reports about its run besides its answers: one event for each thing worth logging,
with a severity and a one-line text. An event is data, so that statements can be made about which
events a cycle gives rise to.
-/

namespace FiveStage

/-- How important an event is. -/
inductive Severity where
  | trace
  | debug
  | info
  | warn
  deriving DecidableEq, Repr

namespace Severity

/-- The rank of a severity; a higher one is more important. -/
def rank : Severity → Nat
  | trace => 0
  | debug => 1
  | info => 2
  | warn => 3

def label : Severity → String
  | trace => "TRACE"
  | debug => "DEBUG"
  | info => "INFO"
  | warn => "WARN"

end Severity

/-- Something worth logging. -/
inductive Event where
  | interruptTaken (trap : Trap) (target : Word)
  | exceptionTaken (trap : Trap) (target : Word)
  | retired (pc : Word) (inst : Instruction) (rd : Nat) (value : Word)
  | dataPortWaiting (pc address : Word)
  | fetchWaiting (pc : Word)
  /-- The unit in a slot has kept the pipeline waiting for `cycles` cycles. -/
  | starved (slot : Slot) (unit : String) (cycles : Nat)
  /-- The decoded word is no instruction. -/
  | unrecognised (pc : Word) (inst : Instruction)
  | loadUse (pc : Word) (register : Nat)
  | rawHazard (pc : Word)
  | forwarded (pc : Word) (register : Nat) (operand : Forwarded)
  | redirected (pc : Word) (select : PcSource) (target : Word)
  | suppressed (cycle : Nat) (interlock : Interlock)
  /-- A trap made a unit drop an operation after `elapsed` cycles. -/
  | aborted (unit : String) (elapsed : Nat)
  | segmentFound (address : Word) (length : Nat)
  | halted (trap : Trap) (cycle : Nat)
  | progress (cycles instructions : Nat) (pc : Word)
  | limitReached (cycles : Nat)
  deriving DecidableEq, Repr

namespace Event

def severity : Event → Severity
  | starved .. => .warn
  | halted .. | progress .. | limitReached .. => .info
  | forwarded .. | aborted .. => .trace
  | interruptTaken .. | exceptionTaken .. | retired .. | dataPortWaiting .. | fetchWaiting ..
  | unrecognised .. | loadUse .. | rawHazard .. | redirected .. | suppressed ..
  | segmentFound .. => .debug

/-- A message followed by its named values. -/
def withFields (message : String) (entries : List (String × String)) : String :=
  message ++ String.join (entries.map fun (name, value) => " " ++ name ++ "=" ++ value)

/-- A message about the instruction at `pc` in a stage, whose name fills four columns. -/
def about (stage : Stage) (pc : Word) (message : String) : String :=
  Text.padRight 4 stage.label ++ "pc=" ++ pc.hex ++ " " ++ message

def message : Event → String
  | interruptTaken trap target => trap.text ++ "; redirect to " ++ target.hex
  | exceptionTaken trap target =>
      Text.padRight 4 Stage.execute.label ++ trap.text ++ "; redirect to " ++ target.hex
  | retired pc inst rd value =>
      about .writeback pc
        (Text.padRight 28 inst.assembly ++ " rd=x" ++ toString rd ++ " <- " ++ value.hex)
  | dataPortWaiting pc address =>
      about .memory pc ("data port not ready addr=" ++ address.hex)
  | fetchWaiting pc => about .fetch pc "instruction port not ready"
  | starved slot unit cycles =>
      withFields "coprocessor has not asserted ready; pipeline is starved"
        [("unit", slot.label), ("name", Text.quoted unit), ("cycles", toString cycles)]
  | unrecognised pc inst => about .decode pc ("unrecognised " ++ Word.hex inst ++ "; bubble")
  | loadUse pc register => about .decode pc ("load-use on x" ++ toString register)
  | rawHazard pc => about .decode pc "RAW hazard without forwarding"
  | forwarded pc register operand =>
      about .decode pc
        ("x" ++ toString register ++ " <- " ++ operand.source.name ++ " " ++ operand.value.hex)
  | redirected pc select target =>
      about .decode pc (select.name ++ " redirect to " ++ target.hex)
  | suppressed cycle interlock =>
      withFields ("cycle " ++ toString cycle)
        [("stalls", Text.list (interlock.stalls.toList.map (·.name))),
          ("stall_point", Text.optional (interlock.stallPoint.map (·.name))),
          ("flushes", Text.list (interlock.flushes.toList.map (·.name))),
          ("flush_point", Text.optional (interlock.flushPoint.map (·.name)))]
  | aborted unit elapsed =>
      withFields "operation aborted by trap"
        [("unit", Text.quoted unit), ("elapsed", toString elapsed)]
  | segmentFound address length =>
      withFields "ELF segment" [("address", address.hex), ("len", toString length)]
  | halted trap cycle => withFields ("halted on " ++ trap.text) [("cycle", toString cycle)]
  | progress cycles instructions pc =>
      withFields "status"
        [("cycles", toString cycles), ("retired", toString instructions), ("pc", pc.hex)]
  | limitReached cycles => withFields "cycle limit reached" [("cycles", toString cycles)]

def text (e : Event) : String :=
  e.severity.label ++ " " ++ e.message

end Event

/-- A log that keeps the events of at least a chosen severity; with no choice it keeps none. -/
structure Log where
  threshold : Option Severity := none
  /-- The events kept, the latest first. -/
  kept : List Event := []

namespace Log

/-- Whether the log keeps an event. -/
def keeps (log : Log) (e : Event) : Bool :=
  log.threshold.any fun t => t.rank ≤ e.severity.rank

/-- The log after more events. -/
def append (log : Log) (events : List Event) : Log :=
  match log.threshold with
  | none => log
  | some _ =>
      { log with
        kept := events.foldl (fun kept e => if log.keeps e then e :: kept else kept) log.kept }

def toList (log : Log) : List Event :=
  log.kept.reverse

end Log

end FiveStage
