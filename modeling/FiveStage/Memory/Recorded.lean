import FiveStage.Memory.Port

/-!
# Recorded ports

A port with a record of the traffic on it. It answers like the port inside and is in no other way
different from it, so what is said about its record is said about the traffic of any port.
-/

namespace FiveStage

/-- One access: what was presented and how it was answered. -/
structure Access where
  request : MemoryRequest
  response : MemoryResponse
  deriving DecidableEq, Repr

/-- A port and the accesses made on it. -/
structure RecordedPort (σ : Type) where
  port : σ
  /-- The accesses so far, the latest first. -/
  record : List Access := []

namespace RecordedPort

variable {σ : Type}

/-- The accesses so far, in the order in which they were made. -/
def accesses (p : RecordedPort σ) : List Access :=
  p.record.reverse

/-- The requests so far, in the order in which they were presented. -/
def requests (p : RecordedPort σ) : List MemoryRequest :=
  p.accesses.map (·.request)

/-- The requests that were answered, in order. -/
def answered (p : RecordedPort σ) : List MemoryRequest :=
  (p.accesses.filter (·.response.ready)).map (·.request)

/-- The accesses that were made since the port was at `earlier`. -/
def since (p earlier : RecordedPort σ) : List Access :=
  p.accesses.drop earlier.accesses.length

theorem since_self (p : RecordedPort σ) : p.since p = [] :=
  List.drop_length

variable [MemoryPort σ]

instance : MemoryPort (RecordedPort σ) where
  access p request :=
    let answer := MemoryPort.access p.port request
    (answer.1, { port := answer.2, record := ⟨request, answer.1⟩ :: p.record })

/-- The port inside sees each request and gives each answer. -/
theorem access_eq (p : RecordedPort σ) (request : MemoryRequest) :
    (MemoryPort.access p request).1 = (MemoryPort.access p.port request).1 ∧
      (MemoryPort.access p request).2.port = (MemoryPort.access p.port request).2 :=
  ⟨rfl, rfl⟩

/-- An access adds itself at the end. -/
theorem accesses_access (p : RecordedPort σ) (request : MemoryRequest) :
    (MemoryPort.access p request).2.accesses =
      p.accesses ++ [⟨request, (MemoryPort.access p.port request).1⟩] := by
  simp [accesses, MemoryPort.access]

theorem since_access (p : RecordedPort σ) (request : MemoryRequest) :
    (MemoryPort.access p request).2.since p = [⟨request, (MemoryPort.access p request).1⟩] := by
  unfold since
  rw [accesses_access, List.drop_left]
  rfl

end RecordedPort

end FiveStage
