import FiveStage.Proofs.Sequential.Stages

/-!
# The reference memory as a function

Apart from the time it takes, the reference memory answers a request as a function of its storage.
So the memory stage waits, or does what an untimed access does, and fetch likewise.
-/

namespace FiveStage

namespace Memory

theorem perform_ready (s : Storage) (req : MemoryRequest) : (perform s req).1.ready = true := by
  unfold perform
  cases req.isWrite <;> rfl

/-- A request is waited for and changes nothing yet, or it is performed. -/
theorem access_cases (m : Memory) (req : MemoryRequest) :
    ((m.access req).1 = {} ∧ (m.access req).2.storage = m.storage) ∨
      ((m.access req).1 = (perform m.storage req).1 ∧
        (m.access req).2.storage = (perform m.storage req).2) := by
  unfold access
  by_cases early : (if m.pending = some req then m.waited + 1 else 1) < m.latency
  · left
    simp [early]
  · right
    simp [early]

end Memory

namespace Core

variable {p : Core}

/-- The memory stage waits, or it is done with the access of its instruction. -/
theorem memoryWork_cases {e : ExMem} (entry : p.latches.exMem = some e)
    (dmem : Memory) :
    ((∃ pc address, (p.memoryWork dmem).1 = .waiting pc address) ∧
        (p.memoryWork dmem).2.storage = dmem.storage) ∨
      ((p.memoryWork dmem).1 = .done (e.finish dmem.storage).1 ∧
        (p.memoryWork dmem).2.storage = (e.finish dmem.storage).2) := by
  unfold ExMem.finish
  cases access : e.request? with
  | none =>
    rw [memoryWork_of_pass entry access]
    exact .inr ⟨rfl, rfl⟩
  | some req =>
    rw [memoryWork_of_request entry access]
    simp only [MemoryPort.access]
    rcases dmem.access_cases req with ⟨answer, storage⟩ | ⟨answer, storage⟩
    · rw [answer]
      exact .inl ⟨⟨_, _, rfl⟩, storage⟩
    · rw [answer, Memory.perform_ready]
      exact .inr ⟨rfl, storage⟩

theorem memoryWork_storage {dmem : Memory} {pc address : Word}
    (wait : (p.memoryWork dmem).1 = .waiting pc address) :
    (p.memoryWork dmem).2.storage = dmem.storage := by
  cases entry : p.latches.exMem with
  | none => rw [memoryWork_of_none entry]
  | some x =>
    rcases memoryWork_cases entry dmem with ⟨-, storage⟩ | ⟨done, -⟩
    · exact storage
    · rw [wait] at done
      cases done

/-- Fetch waits, or it is done with the word at the program counter. -/
theorem fetchWork_cases (p : Core) (imem : Memory) :
    ((p.fetchWork imem).1 = .waiting p.pc ∨
        (p.fetchWork imem).1 = .fetched { pc := p.pc, inst := imem.storage.read p.pc }) ∧
      (p.fetchWork imem).2.storage = imem.storage := by
  unfold fetchWork fetchStage
  rw [if_neg (by decide)]
  simp only [MemoryPort.access]
  rcases imem.access_cases (.read p.pc) with ⟨answer, storage⟩ | ⟨answer, storage⟩
  · rw [answer]
    exact ⟨.inl rfl, storage⟩
  · rw [answer, Memory.perform_ready]
    exact ⟨.inr rfl, storage⟩

end Core

end FiveStage
