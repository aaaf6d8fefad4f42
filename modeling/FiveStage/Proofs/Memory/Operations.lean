import FiveStage.Proofs.Memory.DataLatency
import FiveStage.Proofs.Memory.Images

/-!
# Sequences of operations on the reference memory

The reference memory is a port, and it can be read, written and loaded without timing as well. Over
any sequence of such operations its answers depend on the accesses alone: a request is answered when
it has been presented for the whole latency, counted since the last answer or the last change of
request. Its contents are what the untimed operations and the answered writes make of them, in the
order in which they took place; a write that is given up leaves nothing.
-/

namespace FiveStage

namespace Memory

/-- An image changes nothing but the contents, and not even those if it does not fit. -/
theorem loaded_eq (m : Memory) (address : Word) (image : List Byte) :
    m.loaded address image =
      { m with
        storage :=
          if m.storage.sizeBytes < image.length then m.storage
          else m.storage.writeBytes address image } := by
  unfold loaded
  by_cases long : m.storage.sizeBytes < image.length
  · rw [m.load_of_long address long, if_pos long]
  · rw [m.load_of_fits address (Nat.not_lt.mp long), if_neg long]

/-- The wait is one cycle longer than what was credited. -/
theorem waited_access (m : Memory) (request : MemoryRequest) :
    (m.access request).2.waited = m.credit request + 1 := by
  rw [access_eq]
  split <;> rfl

/-- A request that is not answered waits. -/
theorem pending_access (m : Memory) (request : MemoryRequest) :
    (m.access request).2.pending =
      if (m.access request).1.ready = true then none else some request := by
  rw [access_eq]
  by_cases early : m.credit request + 1 < m.latency
  · rw [if_pos early]
    rfl
  · rw [if_neg early, if_pos (perform_ready ..)]

end Memory

/-! ## Operations -/

/-- An operation on a memory that takes no time. -/
inductive UntimedOperation where
  | read (address : Word)
  | write (address data : Word) (enable : BitVec 8)
  | load (address : Word) (image : List Byte)

namespace UntimedOperation

/-- What the operation does to the contents. An image that does not fit is refused. -/
def store (s : Storage) : UntimedOperation → Storage
  | read _ => s
  | write address data enable => s.write address data enable
  | load address image => if s.sizeBytes < image.length then s else s.writeBytes address image

/-- The memory after the operation. -/
def run (m : Memory) : UntimedOperation → Memory
  | read _ => m
  | write address data enable => m.write address data enable
  | load address image => m.loaded address image

/-- An untimed operation changes nothing but the contents. -/
theorem run_eq (m : Memory) (op : UntimedOperation) :
    op.run m = { m with storage := op.store m.storage } := by
  cases op with
  | read address => rfl
  | write address data enable => rfl
  | load address image => exact m.loaded_eq address image

end UntimedOperation

/-- An operation on a memory. -/
inductive MemoryOperation where
  /-- One cycle in which a request is presented. -/
  | access (request : MemoryRequest)
  | untimed (op : UntimedOperation)

namespace MemoryOperation

def isAccess : MemoryOperation → Bool
  | access _ => true
  | untimed _ => false

/-- The memory with the record of its accesses, after the operation. -/
def run (port : RecordedPort Memory) : MemoryOperation → RecordedPort Memory
  | access request => (MemoryPort.access port request).2
  | untimed op => { port with port := op.run port.port }

/-- What the operation amounts to without timing: a write that is answered is one write, and every
other access is nothing. -/
def effect? (port : RecordedPort Memory) : MemoryOperation → Option UntimedOperation
  | access request =>
      if (port.port.access request).1.ready && request.isWrite then
        some (.write request.address request.data request.byteEnable)
      else none
  | untimed op => some op

end MemoryOperation

namespace RecordedPort

/-- The memory after a sequence of operations. -/
def after (port : RecordedPort Memory) (ops : List MemoryOperation) : RecordedPort Memory :=
  ops.foldl (fun port op => op.run port) port

/-- What the operations of a sequence amount to without timing, in order. -/
def effects (port : RecordedPort Memory) : List MemoryOperation → List UntimedOperation
  | [] => []
  | op :: rest => (op.effect? port).toList ++ (op.run port).effects rest

/-- What was presented in each access, and whether it was answered. -/
def readiness {δ : Type} (port : RecordedPort δ) : List (MemoryRequest × Bool) :=
  port.accesses.map fun a => (a.request, a.response.ready)

/-! ## The answer to a request -/

/-- How the memory answers a request: when that has been presented for the whole latency, with the
word that is addressed then. Only a write that is answered changes the contents, and it does so as
an untimed write. -/
structure Answers (port : RecordedPort Memory) (latency : Nat) (request : MemoryRequest) :
    Prop where
  ready : (port.port.access request).1.ready = true ↔ port.unanswered request + 1 = latency
  waiting : (port.port.access request).1.ready = false →
    (port.port.access request).1.data = 0 ∧
      (port.port.access request).2.storage = port.port.storage
  read : (port.port.access request).1.ready = true → request.isWrite = false →
    (port.port.access request).1.data = port.port.read request.address ∧
      (port.port.access request).2.storage = port.port.storage
  write : (port.port.access request).1.ready = true → request.isWrite = true →
    (port.port.access request).1.data = 0 ∧
      (port.port.access request).2.storage =
        (port.port.write request.address request.data request.byteEnable).storage

/-- A memory that has counted what its record shows answers so. -/
theorem Counts.answers {port : RecordedPort Memory} {latency : Nat} (counts : port.Counts latency)
    (request : MemoryRequest) : port.Answers latency request := by
  have outcome := port.port.access_cases request
  refine ⟨⟨counts.of_ready, fun whole => ?_⟩, fun wait => ?_, fun ready kind => ?_,
    fun ready kind => ?_⟩
  · have late : port.port.latency = port.port.credit request + 1 := by
      rw [counts.latency_eq, counts.credit_eq, whole]
    exact (port.port.ready_access request).mpr (Nat.le_of_eq late)
  · rcases outcome with ⟨nothing, same⟩ | ⟨done, -⟩
    · rw [nothing, same]
      exact ⟨rfl, rfl⟩
    · rw [done, Memory.perform_ready] at wait
      cases wait
  · rcases outcome with ⟨nothing, -⟩ | ⟨done, stored⟩
    · rw [nothing] at ready
      cases ready
    · rw [done, stored]
      unfold Memory.perform
      rw [kind]
      exact ⟨rfl, rfl⟩
  · rcases outcome with ⟨nothing, -⟩ | ⟨done, stored⟩
    · rw [nothing] at ready
      cases ready
    · rw [done, stored]
      unfold Memory.perform
      rw [kind]
      exact ⟨rfl, rfl⟩

/-! ## Sequences -/

variable {port : RecordedPort Memory} {latency : Nat}

/-- The memory has counted its accesses, and the counter stays within the latency. -/
structure Timed (port : RecordedPort Memory) (latency : Nat) : Prop where
  counts : port.Counts latency
  waited_le : port.port.waited ≤ latency

theorem Timed.run (h : port.Timed latency) (op : MemoryOperation) :
    (op.run port).Timed latency := by
  cases op with
  | access request =>
    refine ⟨h.counts.access request, ?_⟩
    change (port.port.access request).2.waited ≤ latency
    rw [port.port.waited_access]
    exact h.counts.early request
  | untimed op =>
    change RecordedPort.Timed { port with port := op.run port.port } latency
    rw [op.run_eq]
    exact ⟨⟨h.counts.latency_eq, h.counts.early, h.counts.credit_eq⟩, h.waited_le⟩

theorem Timed.after (h : port.Timed latency) (ops : List MemoryOperation) :
    (port.after ops).Timed latency := by
  induction ops generalizing port with
  | nil => exact h
  | cons op rest ih => exact ih (h.run op)

/-- The contents change by what an operation amounts to. -/
theorem storage_run (port : RecordedPort Memory) (op : MemoryOperation) :
    (op.run port).port.storage =
      (op.effect? port).toList.foldl UntimedOperation.store port.port.storage := by
  cases op with
  | untimed op =>
    change (op.run port.port).storage = op.store port.port.storage
    rw [op.run_eq]
  | access request =>
    change (port.port.access request).2.storage = _
    simp only [MemoryOperation.effect?]
    rcases port.port.access_cases request with ⟨nothing, same⟩ | ⟨done, stored⟩
    · rw [nothing, same]
      rfl
    · rw [done, stored]
      unfold Memory.perform
      cases kind : request.isWrite <;> rfl

/-- The contents are what the operations amount to, in order. -/
theorem storage_after (port : RecordedPort Memory) (ops : List MemoryOperation) :
    (port.after ops).port.storage =
      (port.effects ops).foldl UntimedOperation.store port.port.storage := by
  induction ops generalizing port with
  | nil => rfl
  | cons op rest ih =>
    change ((op.run port).after rest).port.storage = _
    unfold effects
    rw [ih, storage_run, List.foldl_append]

/-! ## Untimed operations in between -/

/-- Two memories that differ in their contents only, and in what they have answered. -/
structure InStep (port port' : RecordedPort Memory) : Prop where
  readiness : port.readiness = port'.readiness
  latency : port.port.latency = port'.port.latency
  pending : port.port.pending = port'.port.pending
  waited : port.port.waited = port'.port.waited

namespace InStep

variable {port port' : RecordedPort Memory} (h : port.InStep port')
include h

theorem credit (request : MemoryRequest) :
    port.port.credit request = port'.port.credit request := by
  unfold Memory.credit
  rw [h.pending, h.waited]

/-- They answer the next request together. -/
theorem ready (request : MemoryRequest) :
    (port.port.access request).1.ready = (port'.port.access request).1.ready := by
  rw [Bool.eq_iff_iff, Memory.ready_access, Memory.ready_access, h.latency, h.credit]

theorem access (request : MemoryRequest) :
    (MemoryPort.access port request).2.InStep (MemoryPort.access port' request).2 := by
  have ready := h.ready request
  refine ⟨?_, ?_, ?_, ?_⟩
  · unfold RecordedPort.readiness
    rw [accesses_access, accesses_access, List.map_append, List.map_append]
    have before := h.readiness
    unfold RecordedPort.readiness at before
    rw [before]
    exact congrArg (fun answered => port'.accesses.map _ ++ [(request, answered)]) ready
  · change (port.port.access request).2.latency = (port'.port.access request).2.latency
    rw [Memory.latency_access, Memory.latency_access, h.latency]
  · change (port.port.access request).2.pending = (port'.port.access request).2.pending
    rw [Memory.pending_access, Memory.pending_access, ready]
  · change (port.port.access request).2.waited = (port'.port.access request).2.waited
    rw [Memory.waited_access, Memory.waited_access, h.credit]

theorem untimed (op : UntimedOperation) :
    InStep { port with port := op.run port.port } port' := by
  rw [op.run_eq]
  exact ⟨h.readiness, h.latency, h.pending, h.waited⟩

/-- They stay in step if one of them misses the untimed operations. -/
theorem after (ops : List MemoryOperation) :
    (port.after ops).InStep (port'.after (ops.filter (·.isAccess))) := by
  induction ops generalizing port port' with
  | nil => exact h
  | cons op rest ih =>
    cases op with
    | access request => exact ih (h.access request)
    | untimed op => exact ih (h.untimed op)

end InStep

end RecordedPort

/-! ## Any sequence of operations -/

/-- The timing and the effect of a reference memory over any sequence of operations. At every point
of the sequence a request is answered exactly if it has been presented for the whole latency, a read
then gives the word of that moment, and only a write changes the contents. Untimed operations in
between make no difference to the answers. The contents are what the answered writes and the untimed
operations amount to, in the order in which they took place, and the counter never exceeds the
latency. -/
theorem Memory.operations_timed (bytes latency : Nat) (ops : List MemoryOperation) :
    let fresh : RecordedPort Memory := { port := create bytes latency }
    let now := fresh.after ops
    (∀ request, now.Answers (max latency 1) request) ∧
      now.readiness = (fresh.after (ops.filter (·.isAccess))).readiness ∧
      now.port.storage = (fresh.effects ops).foldl UntimedOperation.store (.zero bytes) ∧
      now.port.waited ≤ max latency 1 := by
  intro fresh now
  have counts : fresh.Counts (max latency 1) :=
    ⟨rfl, fun _ => Nat.le_max_right latency 1, fun _ => rfl⟩
  have timed := RecordedPort.Timed.after ⟨counts, Nat.zero_le _⟩ ops
  have inStep : fresh.InStep fresh := ⟨rfl, rfl, rfl, rfl⟩
  exact ⟨timed.counts.answers, (inStep.after ops).readiness, fresh.storage_after ops,
    timed.waited_le⟩

end FiveStage
