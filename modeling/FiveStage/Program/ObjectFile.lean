import FiveStage.Event
import FiveStage.Program.Basic

/-!
# Programs in files

A program file is an executable in ELF or one image. To take executables apart is left to a reader
of object files, which is not part of the program: what it may find in a file is an `ObjectFile`,
and the program in one is built from whatever it says. Only little-endian 32-bit executables in ELF
for this instruction set are accepted, and only addresses of 32 bits.
-/

namespace FiveStage

/-- A loadable segment, as a reader of object files shows it. -/
structure ObjectSegment where
  address : BitVec 64
  /-- Its bytes, or why the file does not have them. -/
  contents : Except String (List Byte)

/-- What a reader of object files finds in a file. -/
structure ObjectFile where
  isElf : Bool
  is64 : Bool
  littleEndian : Bool
  /-- The file is for the 32-bit architecture of this instruction set. -/
  isRiscv32 : Bool
  entry : BitVec 64
  segments : List ObjectSegment

/-- A reader of object files. It fails with a description of what is wrong with the file. -/
class ObjectReader where
  read : ByteArray → Except String ObjectFile

/-- The event of each segment of an executable. -/
def Segment.found (s : Segment) : Event :=
  .segmentFound s.address s.bytes.length

/-- A program with what was logged while it was read. -/
structure LoadedProgram where
  program : Program
  events : List Event := []
  deriving DecidableEq, Repr

/-- An address as one of 32 bits. -/
def narrowAddress (address : BitVec 64) : Except LoadError Word :=
  if address.toNat < Nat.pow 2 32 then .ok (address.setWidth 32) else .error .unsupportedElf

/-- The segment of a program, if it has any bytes. -/
def ObjectSegment.segment? (s : ObjectSegment) : Except LoadError (Option Segment) := do
  let bytes ← s.contents.mapError .malformedElf
  if bytes.isEmpty then return none
  else return some { address := ← narrowAddress s.address, bytes }

/-- Whether an object file is an executable for the pipeline. -/
def ObjectFile.isSupported (file : ObjectFile) : Bool :=
  file.isElf && !file.is64 && file.littleEndian && file.isRiscv32

/-- Whether a file begins like an executable in ELF. -/
def Elf.hasMagic (file : ByteArray) : Bool :=
  (file.extract 0 4).toList == [0x7F, 0x45, 0x4C, 0x46]

namespace Program

/-- The program in an object file. -/
def ofObjectFile (file : ObjectFile) : Except LoadError LoadedProgram := do
  if file.isSupported then
    let segments := (← file.segments.mapM ObjectSegment.segment?).filterMap id
    let entry ← narrowAddress file.entry
    return { program := { entry := some entry, segments }, events := segments.map Segment.found }
  else throw .unsupportedElf

/-- The program in an executable. -/
def ofElf [ObjectReader] (bytes : ByteArray) : Except LoadError LoadedProgram := do
  ofObjectFile (← (ObjectReader.read bytes).mapError .malformedElf)

/-- The program in a file, given what reading the file gave: an executable if it begins like one or
is to be taken for one, and otherwise one image at `base`. -/
def ofFile [ObjectReader] (contents : Except ReadFailure ByteArray) (forceElf : Bool)
    (base : Word) : Except LoadError LoadedProgram :=
  match contents with
  | .error failure => .error (.unreadable failure)
  | .ok bytes =>
      if forceElf || Elf.hasMagic bytes then ofElf bytes
      else .ok { program := .ofRaw (bytes.toList.map (·.toBitVec)) base }

end Program

end FiveStage
