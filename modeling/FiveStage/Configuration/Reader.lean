import FiveStage.Configuration
import FiveStage.Json.Parser
import FiveStage.Json.Record

/-!
# Reading configurations

A configuration is written as JSON. Fields that are left out keep their defaults. Reading checks the
shape and the range of every field; `Configuration.validate` checks the values afterwards.
-/

namespace FiveStage

open Json (RecordField readRecord)

/-- The largest 32-bit number. -/
def maxWord32 : Nat := UInt32.size - 1

/-- The largest 64-bit number. -/
def maxWord64 : Nat := UInt64.size - 1

/-- The fields of the general settings. -/
def GeneralSettings.fields : List (RecordField GeneralSettings) :=
  [{ name := "trace_instructions"
     read := fun s v => v.bool?.map fun b => { s with traceInstructions := b } },
   { name := "max_cycles"
     read := fun s v => (v.natural? maxWord64).map fun n => { s with maxCycles := n } },
   { name := "halt_on_trap"
     read := fun s v => v.bool?.map fun b => { s with haltOnTrap := b } }]

/-- The fields of the pipeline settings. -/
def PipelineSettings.fields : List (RecordField PipelineSettings) :=
  [{ name := "reset_pc"
     read := fun s v => (v.natural? maxWord32).map fun n => { s with resetPc := .ofNat 32 n } },
   { name := "trap_vector"
     read := fun s v => (v.natural? maxWord32).map fun n => { s with trapVector := .ofNat 32 n } },
   { name := "interrupt_vector"
     read := fun s v =>
       (v.natural? maxWord32).map fun n => { s with interruptVector := .ofNat 32 n } },
   { name := "forwarding"
     read := fun s v => v.bool?.map fun b => { s with forwarding := b } },
   { name := "starvation_warn_cycles"
     read := fun s v => (v.natural? maxWord64).map fun n => { s with starvationWarnCycles := n } }]

/-- The fields of the memory settings. -/
def MemorySettings.fields : List (RecordField MemorySettings) :=
  [{ name := "size_bytes"
     read := fun s v => (v.natural? maxWord64).map fun n => { s with sizeBytes := n } },
   { name := "fetch_latency"
     read := fun s v => (v.natural? maxWord32).map fun n => { s with fetchLatency := n } },
   { name := "data_latency"
     read := fun s v => (v.natural? maxWord32).map fun n => { s with dataLatency := n } }]

/-- The latencies of the four coprocessors. -/
def readLatency : Json → Option (PerSlot Nat)
  | .array items => (items.mapM (Json.natural? maxWord32)).bind PerSlot.ofList?
  | _ => none

/-- The fields of the coprocessor settings. -/
def CoprocessorSettings.fields : List (RecordField CoprocessorSettings) :=
  [{ name := "latency"
     read := fun s v => (readLatency v).map fun latency => { s with latency } }]

namespace Configuration

/-- The fields of a configuration. -/
def fields : List (RecordField Configuration) :=
  [{ name := "general"
     read := fun c v =>
       (readRecord GeneralSettings.fields {} v).map fun general => { c with general } },
   { name := "pipeline"
     read := fun c v =>
       (readRecord PipelineSettings.fields {} v).map fun pipeline => { c with pipeline } },
   { name := "memory"
     read := fun c v =>
       (readRecord MemorySettings.fields {} v).map fun memory => { c with memory } },
   { name := "coprocessors"
     read := fun c v =>
       (readRecord CoprocessorSettings.fields {} v).map fun coprocessors =>
         { c with coprocessors } }]

/-- The configuration that a JSON value stands for. -/
def ofJson? (v : Json) : Option Configuration :=
  readRecord fields {} v

/-- The configuration that a text stands for, with values as they are. -/
def parse (text : String) : Except ConfigurationError Configuration :=
  match Json.parse? text with
  | none => .error (.malformed .notJson)
  | some v =>
      match ofJson? v with
      | none => .error (.malformed .notSettings)
      | some c => .ok c

/-- The configuration that a text stands for, if its values are valid. -/
def ofText (text : String) : Except ConfigurationError Configuration := do
  let c ← parse text
  c.validate
  return c

/-- The configuration in a file, given what reading the file gave. -/
def ofFile (path : String) (contents : Except ReadFailure ByteArray) :
    Except ConfigurationError Configuration :=
  match contents with
  | .error failure => .error (.unreadable path failure)
  | .ok bytes =>
      match String.fromUTF8? bytes with
      | none => .error (.unreadable path .notText)
      | some text => ofText text

end Configuration

end FiveStage
