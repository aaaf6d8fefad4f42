import FiveStage.CommandLine.Arguments
import FiveStage.CommandLine.Execute
import FiveStage.Configuration
import FiveStage.Configuration.Reader
import FiveStage.Control
import FiveStage.Coprocessor.Bank
import FiveStage.Coprocessor.Dispatcher
import FiveStage.Coprocessor.FixedLatencyUnit
import FiveStage.Coprocessor.Interface
import FiveStage.Coprocessor.Recorded
import FiveStage.Coprocessor.Reference
import FiveStage.Coprocessor.SystemUnit
import FiveStage.Csr
import FiveStage.Datapath.Alu
import FiveStage.Datapath.Branch
import FiveStage.Datapath.Lanes
import FiveStage.Event
import FiveStage.Files.Elf
import FiveStage.Files.FileTree
import FiveStage.Files.ReadFailure
import FiveStage.FloatingPoint
import FiveStage.Instruction.Assembly
import FiveStage.Instruction.Fields
import FiveStage.Instruction.Immediate
import FiveStage.Instruction.Opcode
import FiveStage.Json.Parser
import FiveStage.Json.Record
import FiveStage.Json.Token
import FiveStage.Json.Value
import FiveStage.Main
import FiveStage.Memory.Port
import FiveStage.Memory.Recorded
import FiveStage.Memory.Storage
import FiveStage.Memory.Timed
import FiveStage.Operands
import FiveStage.Pipeline.BackEnd
import FiveStage.Pipeline.FrontEnd
import FiveStage.Pipeline.Hazard
import FiveStage.Pipeline.Interlock
import FiveStage.Pipeline.Latches
import FiveStage.Pipeline.Reason
import FiveStage.Pipeline.Report
import FiveStage.Pipeline.Schedule
import FiveStage.Pipeline.Snapshot
import FiveStage.Pipeline.Stage
import FiveStage.Pipeline.Tick
import FiveStage.Program.Basic
import FiveStage.Program.ObjectFile
import FiveStage.Proofs.Configuration.EntryPoint
import FiveStage.Proofs.Coprocessor.Departures
import FiveStage.Proofs.Coprocessor.Hidden
import FiveStage.Proofs.Coprocessor.Presentations
import FiveStage.Proofs.Coprocessor.ReferenceBank
import FiveStage.Proofs.Coprocessor.Starvation
import FiveStage.Proofs.Coprocessor.Stimulus
import FiveStage.Proofs.Coprocessor.UnitLatency
import FiveStage.Proofs.Coprocessor.Zicsr
import FiveStage.Proofs.Instruction.AssemblyLine
import FiveStage.Proofs.Instruction.BaseSet
import FiveStage.Proofs.Instruction.Datapath
import FiveStage.Proofs.Instruction.Disassembly
import FiveStage.Proofs.Instruction.Encoding
import FiveStage.Proofs.Instruction.RoundTrip
import FiveStage.Proofs.Instruction.SourceFields
import FiveStage.Proofs.Memory.Accesses
import FiveStage.Proofs.Memory.ByteMemory
import FiveStage.Proofs.Memory.DataLatency
import FiveStage.Proofs.Memory.Images
import FiveStage.Proofs.Memory.Operations
import FiveStage.Proofs.Memory.ReferencePort
import FiveStage.Proofs.Pipeline.Causes
import FiveStage.Proofs.Pipeline.ClockEdge
import FiveStage.Proofs.Pipeline.Combination
import FiveStage.Proofs.Pipeline.EvenAddresses
import FiveStage.Proofs.Pipeline.Execute
import FiveStage.Proofs.Pipeline.Flow
import FiveStage.Proofs.Pipeline.Handshake
import FiveStage.Proofs.Pipeline.Operands
import FiveStage.Proofs.Pipeline.Passages
import FiveStage.Proofs.Pipeline.Stay
import FiveStage.Proofs.Pipeline.Traffic
import FiveStage.Proofs.Pipeline.Waits
import FiveStage.Proofs.Refinement.Commits
import FiveStage.Proofs.Refinement.Cycle
import FiveStage.Proofs.Refinement.Halt
import FiveStage.Proofs.Refinement.Interrupts
import FiveStage.Proofs.Refinement.Pauses
import FiveStage.Proofs.Refinement.Simulates
import FiveStage.Proofs.Sequential.Executes
import FiveStage.Proofs.Sequential.Stages
import FiveStage.Proofs.Statistics.Counters
import FiveStage.Proofs.Statistics.Offloads
import FiveStage.Proofs.Statistics.Record
import FiveStage.Proofs.Text.Separated
import FiveStage.Proofs.Timing.Forwarding
import FiveStage.Proofs.Timing.OperandWaits
import FiveStage.Proofs.Timing.Outlook
import FiveStage.RegisterFile
import FiveStage.Sequential
import FiveStage.Simulator
import FiveStage.Slot
import FiveStage.Statistics.Basic
import FiveStage.Statistics.Sections
import FiveStage.Text.Layout
import FiveStage.Text.Notation
import FiveStage.Text.Printable
import FiveStage.Trap
import FiveStage.Word
