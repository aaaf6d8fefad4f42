import FiveStage.Word

/-!
# Memory ports

The interface through which fetch and the memory stage reach memory. A port is a state machine:
each cycle it is shown at most one request and answers whether the access completed. It may
withhold `ready` for as long as it likes.
-/

namespace FiveStage

/-- An access presented for one cycle. -/
structure MemoryRequest where
  /-- Any byte address of the word that is accessed. -/
  address : Word
  isWrite : Bool
  /-- The data of a write, already in its lanes. -/
  data : Word
  /-- The lanes of a write. -/
  byteEnable : BitVec 8
  deriving DecidableEq, Repr

def MemoryRequest.read (address : Word) : MemoryRequest :=
  { address, isWrite := false, data := 0, byteEnable := 0 }

/-- The answer of a port for one cycle. -/
structure MemoryResponse where
  /-- The access completed in this cycle. -/
  ready : Bool := false
  /-- The word read, when a read completed. -/
  data : Word := 0
  deriving DecidableEq, Repr

/-- A memory port with states of type `σ`. -/
class MemoryPort (σ : Type) where
  /-- One cycle in which a request is presented. -/
  access : σ → MemoryRequest → MemoryResponse × σ

end FiveStage
