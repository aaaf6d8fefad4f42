import FiveStage.Files.ReadFailure
import FiveStage.Slot
import FiveStage.Text.Layout

/-!
# Configuration

The parameters of a run with their defaults, and the checks that a configuration has to pass.
-/

namespace FiveStage

/-- How long to run and what to show. -/
structure GeneralSettings where
  traceInstructions : Bool := false
  maxCycles : Nat := 1000000
  haltOnTrap : Bool := true
  deriving DecidableEq, Repr

/-- Where the pipeline starts and goes, and how it handles hazards. -/
structure PipelineSettings where
  resetPc : Word := 0
  /-- Where a coprocessor exception goes. -/
  trapVector : Word := 0x100
  /-- Where an interrupt goes. -/
  interruptVector : Word := 0x200
  forwarding : Bool := true
  /-- The wait at which a coprocessor counts as starving the pipeline; zero for never. -/
  starvationWarnCycles : Nat := 1000
  deriving DecidableEq, Repr

/-- The two memories. -/
structure MemorySettings where
  /-- The size of each in bytes. -/
  sizeBytes : Nat := 65536
  fetchLatency : Nat := 1
  dataLatency : Nat := 1
  deriving DecidableEq, Repr

/-- The coprocessors. -/
structure CoprocessorSettings where
  latency : PerSlot Nat := ⟨1, 4, 2, 2⟩
  deriving DecidableEq, Repr

/-- All parameters of a run. -/
structure Configuration where
  general : GeneralSettings := {}
  pipeline : PipelineSettings := {}
  memory : MemorySettings := {}
  coprocessors : CoprocessorSettings := {}
  deriving DecidableEq, Repr

/-- Why a text is not a configuration. -/
inductive MalformedSettings where
  /-- It is not JSON. -/
  | notJson
  /-- It is JSON, but not the settings of a run. -/
  | notSettings
  deriving DecidableEq, Repr

def MalformedSettings.message : MalformedSettings → String
  | notJson => "not a JSON text"
  | notSettings => "unexpected, repeated or out-of-range field"

/-- What is wrong with a configuration. -/
inductive ConfigurationError where
  | unreadable (path : String) (failure : ReadFailure)
  /-- Its text is not a configuration. -/
  | malformed (reason : MalformedSettings)
  /-- An address is not a multiple of four. -/
  | misaligned (field : String) (value : Word)
  /-- The memory size is zero or not a multiple of four. -/
  | memorySize (bytes : Nat)
  /-- A coprocessor has no latency. -/
  | zeroLatency (slot : Slot)
  deriving DecidableEq, Repr

def ConfigurationError.message : ConfigurationError → String
  | unreadable path failure => "failed to read configuration " ++ path ++ ": " ++ failure.message
  | malformed reason => "malformed configuration: " ++ reason.message
  | misaligned field value => field ++ " (" ++ value.hex ++ ") must be 4-byte aligned"
  | memorySize bytes => "memory size " ++ toString bytes ++ " is not a non-zero multiple of 4"
  | zeroLatency slot => "coprocessor " ++ slot.label ++ " latency must be at least 1 cycle"

namespace Configuration

/-- The addresses that must be multiples of four, in the order in which they are checked. -/
def addresses (c : Configuration) : List (String × Word) :=
  [("reset_pc", c.pipeline.resetPc), ("trap_vector", c.pipeline.trapVector),
    ("interrupt_vector", c.pipeline.interruptVector)]

/-- The first thing that is wrong with a configuration: an address, else the memory size, else a
latency. -/
def fault? (c : Configuration) : Option ConfigurationError :=
  match c.addresses.find? fun (_, value) => !value.isAligned with
  | some (name, value) => some (.misaligned name value)
  | none =>
      if c.memory.sizeBytes = 0 || c.memory.sizeBytes % 4 != 0 then
        some (.memorySize c.memory.sizeBytes)
      else
        (Slot.all.find? fun slot => c.coprocessors.latency.get slot == 0).map .zeroLatency

/-- Accepts a configuration in which nothing is wrong. -/
def validate (c : Configuration) : Except ConfigurationError Unit :=
  match c.fault? with
  | some e => .error e
  | none => .ok ()

/-- What the checks are for. -/
structure Valid (c : Configuration) : Prop where
  aligned : ∀ name value, (name, value) ∈ c.addresses → value.isAligned = true
  size : c.memory.sizeBytes ≠ 0 ∧ c.memory.sizeBytes % 4 = 0
  latency : ∀ slot, c.coprocessors.latency.get slot ≠ 0

theorem validate_eq_ok_iff_fault {c : Configuration} :
    c.validate = .ok () ↔ c.fault? = none := by
  unfold validate
  cases c.fault? with
  | none => exact ⟨fun _ => rfl, fun _ => rfl⟩
  | some e => exact ⟨nofun, nofun⟩

theorem fault_eq_none_iff {c : Configuration} : c.fault? = none ↔ c.Valid := by
  have latencies : (Slot.all.find? fun slot => c.coprocessors.latency.get slot == 0) = none ↔
      ∀ slot, c.coprocessors.latency.get slot ≠ 0 := by
    simp [List.find?_eq_none, Slot.mem_all]
  unfold fault?
  split
  case h_1 name value found =>
    have member := List.mem_of_find?_eq_some found
    have misaligned : value.isAligned = false := by simpa using List.find?_some found
    refine ⟨nofun, fun valid => ?_⟩
    rw [valid.aligned name value member] at misaligned
    cases misaligned
  case h_2 none =>
    have aligned (name : String) (value : Word) (member : (name, value) ∈ c.addresses) :
        value.isAligned = true := by
      simpa using List.find?_eq_none.mp none _ member
    split
    case isTrue size =>
      refine ⟨nofun, fun valid => ?_⟩
      simp [valid.size] at size
    case isFalse size =>
      rw [Option.map_eq_none_iff, latencies]
      simp only [Bool.or_eq_true, decide_eq_true_eq, bne_iff_ne, not_or,
        Decidable.not_not] at size
      exact ⟨fun positive => ⟨aligned, size, positive⟩, fun valid => valid.latency⟩

/-- The configurations that are accepted are the valid ones. -/
theorem validate_eq_ok_iff {c : Configuration} : c.validate = .ok () ↔ c.Valid :=
  validate_eq_ok_iff_fault.trans fault_eq_none_iff

end Configuration

end FiveStage
