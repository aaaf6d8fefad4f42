import FiveStage.Program.ObjectFile

/-!
# A reader of executables in ELF

The reader of object files that the command uses. It knows ELF only. The container is checked as far
as the tables go: the file header, the program header table and the section header table must be
whole, aligned and of the right entry size, and the section names must be in a section.
-/

namespace FiveStage.Elf

/-- The parts of the file header that matter, with the sizes that go with its class. -/
structure Header where
  /-- The class is the 64-bit one. -/
  is64 : Bool
  bigEndian : Bool
  machine : Nat
  entry : Nat
  programOffset : Nat
  sectionOffset : Nat
  programEntrySize : Nat
  programCount : Nat
  sectionEntrySize : Nat
  sectionCount : Nat
  namesIndex : Nat
  deriving DecidableEq, Repr

/-- The unsigned number in `size` bytes at `offset`; bytes outside the file count as zero. -/
def number (file : ByteArray) (bigEndian : Bool) (offset size : Nat) : Nat :=
  let bytes := (List.range size).map fun i => (file[offset + i]?.getD 0).toNat
  (if bigEndian then bytes else bytes.reverse).foldl (fun n b => 256 * n + b) 0

namespace Header

def size (is64 : Bool) : Nat :=
  if is64 then 64 else 52

def read (file : ByteArray) : Except String Header :=
  let byte (i : Nat) : Nat := number file false i 1
  if file.size < 16 || !hasMagic file || !(byte 4 == 1 || byte 4 == 2) then
    .error "not an ELF file"
  else
    let is64 := byte 4 == 2
    let bigEndian := byte 5 == 2
    if file.size < size is64 then .error "truncated file header"
    else if !(byte 5 == 1 || byte 5 == 2) then .error "unknown byte order"
    else if byte 6 != 1 then .error "unknown version"
    else
      let word := if is64 then 8 else 4
      let get (offset size : Nat) : Nat := number file bigEndian offset size
      let half (k : Nat) : Nat := get (24 + 3 * word + 4 + 2 * k) 2
      .ok
        { is64
          bigEndian
          machine := get 18 2
          entry := get 24 word
          programOffset := get (24 + word) word
          sectionOffset := get (24 + 2 * word) word
          programEntrySize := half 1
          programCount := half 2
          sectionEntrySize := half 3
          sectionCount := half 4
          namesIndex := half 5 }

def alignment (h : Header) : Nat :=
  if h.is64 then 8 else 4

def programHeaderSize (h : Header) : Nat :=
  if h.is64 then 56 else 32

def sectionHeaderSize (h : Header) : Nat :=
  if h.is64 then 64 else 40

/-- Whether a table of `count` entries at `offset` is aligned and inside the file. -/
def isTable (h : Header) (file : ByteArray) (offset count size : Nat) : Bool :=
  offset % h.alignment == 0 && offset + count * size ≤ file.size

/-- Whether the first section header is there. -/
def hasFirstSection (h : Header) (file : ByteArray) : Bool :=
  h.sectionOffset != 0 && h.sectionEntrySize == h.sectionHeaderSize &&
    h.isTable file h.sectionOffset 1 h.sectionHeaderSize

/-- A field of a table entry at `start`, by its offsets in the two classes. -/
def field (h : Header) (file : ByteArray) (start offset32 offset64 size64 : Nat) : Nat :=
  if h.is64 then number file h.bigEndian (start + offset64) size64
  else number file h.bigEndian (start + offset32) 4

/-- The number of program headers. A count that does not fit its field is in the first section. -/
def programHeaderCount (h : Header) (file : ByteArray) : Except String Nat :=
  if h.programOffset = 0 then .ok 0
  else if h.programCount < 0xFFFF then .ok h.programCount
  else if h.hasFirstSection file then .ok (h.field file h.sectionOffset 28 44 4)
  else .error "bad section header table"

/-- Checks the program header table and gives its number of entries. -/
def checkProgramHeaders (h : Header) (file : ByteArray) : Except String Nat := do
  let count ← h.programHeaderCount file
  if count = 0 then return 0
  else if h.programEntrySize != h.programHeaderSize ||
      !h.isTable file h.programOffset count h.programHeaderSize then
    throw "bad program header table"
  else return count

/-- The index of the section names. One that does not fit its field is in the first section. -/
def sectionNamesIndex (h : Header) (file : ByteArray) : Nat :=
  if h.namesIndex = 0xFFFF then h.field file h.sectionOffset 24 40 4 else h.namesIndex

/-- Checks the section header table and the index of the section names. A count that does not fit
its field is in the first section. -/
def checkSections (h : Header) (file : ByteArray) : Except String Unit :=
  if h.sectionOffset = 0 then .ok ()
  else if !h.hasFirstSection file then .error "bad section header table"
  else
    let count := if h.sectionCount = 0 then h.field file h.sectionOffset 20 32 8 else h.sectionCount
    if count = 0 then .ok ()
    else if !h.isTable file h.sectionOffset count h.sectionHeaderSize then
      .error "bad section header table"
    else
      let names := h.sectionNamesIndex file
      if names = 0 || count ≤ names then .error "bad index of the section names" else .ok ()

/-- The segment of the program header at `start`, if it is loadable. -/
def segment? (h : Header) (file : ByteArray) (start : Nat) : Option ObjectSegment :=
  let offset := h.field file start 4 8 8
  let length := h.field file start 16 32 8
  if number file h.bigEndian start 4 != 1 then none
  else
    some
      { address := .ofNat 64 (h.field file start 8 16 8)
        contents :=
          if file.size < offset + length then .error "segment outside the file"
          else .ok ((file.extract offset (offset + length)).toList.map (·.toBitVec)) }

/-- What there is to say of a file with this header and `count` program headers. -/
def objectFile (h : Header) (file : ByteArray) (count : Nat) : ObjectFile where
  isElf := true
  is64 := h.is64
  littleEndian := !h.bigEndian
  isRiscv32 := !h.is64 && h.machine == 243
  entry := .ofNat 64 h.entry
  segments := (List.range count).filterMap fun i =>
    h.segment? file (h.programOffset + i * h.programHeaderSize)

end Header

instance : ObjectReader where
  read file := do
    let header ← Header.read file
    let count ← header.checkProgramHeaders file
    header.checkSections file
    return header.objectFile file count

end FiveStage.Elf
