import FiveStage.Memory.Port
import FiveStage.Memory.Storage

/-!
# The reference memory

Word storage behind a port that answers a request in the last of `latency` consecutive cycles in
which that same request is presented. Untimed reads, writes and image loads reach the storage
directly and leave the timing alone.
-/

namespace FiveStage

/-- Storage with a latency and the wait for the current request. -/
structure Memory where
  storage : Storage
  latency : Nat
  /-- The request that is waiting, if one is. -/
  pending : Option MemoryRequest
  /-- The cycles that the last request presented has waited, its first included. -/
  waited : Nat

namespace Memory

/-- A zero memory of the given size in bytes. A latency below one acts as one. -/
def create (bytes latency : Nat) : Memory where
  storage := .zero bytes
  latency := max latency 1
  pending := none
  waited := 0

/-- The size in bytes. -/
def sizeBytes (m : Memory) : Nat :=
  m.storage.sizeBytes

/-- The word that contains an address, without timing. -/
def read (m : Memory) (address : Word) : Word :=
  m.storage.read address

/-- The memory after an untimed write. -/
def write (m : Memory) (address data : Word) (enable : BitVec 8) : Memory :=
  { m with storage := m.storage.write address data enable }

/-- Why an operation on a memory failed, with the memory as it left it. -/
structure Failure (ε : Type) where
  error : ε
  memory : Memory

instance {ε : Type} : CoeOut (Failure ε) ε where
  coe := Failure.error

/-- Where nobody asks for the memory, the result of an operation is its error or its value. -/
instance {ε α : Type} : CoeOut (Except (Failure ε) α) (Except ε α) where
  coe := Except.mapError Failure.error

/-- The memory with a byte image placed at an address. The image wraps around like every other
access. One that is longer than the memory is refused before anything is written. -/
def load (m : Memory) (address : Word) (image : List Byte) :
    Except (Failure ImageTooLarge) Memory :=
  if m.sizeBytes < image.length then
    .error
      { error := { start := address, length := image.length, size := m.sizeBytes }
        memory := m }
  else
    .ok { m with storage := m.storage.writeBytes address image }

/-- What a request does to the storage in the cycle that completes it. -/
def perform (s : Storage) (req : MemoryRequest) : MemoryResponse × Storage :=
  if req.isWrite then
    ({ ready := true }, s.write req.address req.data req.byteEnable)
  else
    ({ ready := true, data := s.read req.address }, s)

/-- One cycle in which `req` is presented. -/
def access (m : Memory) (req : MemoryRequest) : MemoryResponse × Memory :=
  let waited := if m.pending = some req then m.waited + 1 else 1
  if waited < m.latency then
    ({}, { m with pending := some req, waited })
  else
    let done := perform m.storage req
    (done.1, { m with storage := done.2, pending := none, waited })

instance : MemoryPort Memory where
  access := access

end Memory

end FiveStage
