import FiveStage.Configuration
import FiveStage.Memory.Timed

/-!
# Programs

A program is a list of byte segments with their load addresses, and perhaps an entry point. Its
segments are placed in a memory one after the other, up to the first that does not fit.
-/

namespace FiveStage

/-- A contiguous part of a program. -/
structure Segment where
  /-- The address of the first byte. -/
  address : Word
  bytes : List Byte
  deriving DecidableEq, Repr

/-- A program that is ready to be placed in memory. -/
structure Program where
  /-- The first address to execute, if the program names one. -/
  entry : Option Word := none
  segments : List Segment
  deriving DecidableEq, Repr

/-- Why a program cannot be loaded. -/
inductive LoadError where
  | unreadable (failure : ReadFailure)
  /-- Its file is a broken executable, as the reader of object files describes it. -/
  | malformedElf (description : String)
  /-- Its file is an executable for something else. -/
  | unsupportedElf
  /-- A segment does not fit into memory. -/
  | tooLarge (error : ImageTooLarge)
  deriving DecidableEq, Repr

def LoadError.message : LoadError → String
  | unreadable failure => "failed to read program: " ++ failure.message
  | malformedElf description => "failed to parse ELF: " ++ description
  | unsupportedElf => "not a 32-bit little-endian RISC-V ELF"
  | tooLarge error => error.message

namespace Program

/-- A program that is one image at `base`. -/
def ofRaw (image : List Byte) (base : Word) : Program where
  segments := [{ address := base, bytes := image }]

/-- The memory with the segments placed in it. One that does not fit stops this, and those before it
stay. -/
def place (segments : List Segment) (m : Memory) : Except (Memory.Failure LoadError) Memory :=
  match segments with
  | [] => .ok m
  | s :: rest =>
      match m.load s.address s.bytes with
      | .ok m => place rest m
      | .error failure => .error { error := .tooLarge failure, memory := failure.memory }

/-- The memory with the program placed in it. -/
def loadInto (p : Program) (m : Memory) : Except (Memory.Failure LoadError) Memory :=
  place p.segments m

end Program

end FiveStage
