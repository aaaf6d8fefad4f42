import FiveStage.Text.Layout

/-!
# Word storage

An array of words addressed by byte addresses that wrap around at its size. A write takes effect
in the enabled lanes only, and bytes are written one by one.
-/

namespace FiveStage

/-- A nonempty array of words. -/
structure Storage where
  words : Array Word
  words_pos : 0 < words.size

/-- The error of placing an image that is longer than the storage. -/
structure ImageTooLarge where
  /-- Where the image was to start. -/
  start : Word
  /-- The length of the image in bytes. -/
  length : Nat
  /-- The size of the storage in bytes. -/
  size : Nat
  deriving DecidableEq, Repr

def ImageTooLarge.message (e : ImageTooLarge) : String :=
  "image segment [" ++ e.start.hex ++ ", +" ++ Text.hex e.length ++ ") exceeds memory of " ++
    Text.hex e.size ++ " bytes"

namespace Storage

/-- Storage of `bytes / 4` words, but of at least one, all zero. -/
def zero (bytes : Nat) : Storage where
  words := Array.replicate (max (bytes / 4) 1) 0
  words_pos := by simp only [Array.size_replicate]; omega

/-- The size in bytes. -/
def sizeBytes (s : Storage) : Nat :=
  4 * s.words.size

/-- The place of the word that contains an address. -/
def index (s : Storage) (address : Word) : Fin s.words.size :=
  ⟨address.toNat / 4 % s.words.size, Nat.mod_lt _ s.words_pos⟩

def read (s : Storage) (address : Word) : Word :=
  s.words[s.index address]

/-- The storage after the enabled lanes of the addressed word are written. -/
def write (s : Storage) (address data : Word) (enable : BitVec 8) : Storage where
  words := s.words.set (s.index address) (Word.merge (s.read address) data enable)
  words_pos := by simpa using s.words_pos

/-- The storage after one byte is written. -/
def writeByte (s : Storage) (address : Word) (b : Byte) : Storage :=
  let lane := address.toNat % 4
  s.write address (b.setWidth 32 <<< (8 * lane)) (1 <<< lane)

/-- The storage after bytes are written at consecutive addresses. -/
def writeBytes (s : Storage) (address : Word) : List Byte → Storage
  | [] => s
  | b :: rest => (s.writeByte address b).writeBytes (address + 1) rest

@[simp]
theorem size_write (s : Storage) (address data : Word) (enable : BitVec 8) :
    (s.write address data enable).words.size = s.words.size := by
  simp [write]

end Storage

end FiveStage
