import FiveStage.Proofs.Memory.Accesses
import FiveStage.Proofs.Memory.ReferencePort
import FiveStage.Proofs.Pipeline.Causes
import FiveStage.Proofs.Pipeline.Stay

/-!
# The latency of the data memory

The reference memory answers a request in the last of `latency` consecutive cycles of presentation,
and it hears of nothing but requests. So a load or store is presented in `latency` cycles less those
in which the same request was presented last and given up: an interrupt empties the memory stage and
leaves the memory waiting.
-/

namespace FiveStage

namespace Memory

/-- The cycles that a request has waited already. -/
def credit (m : Memory) (request : MemoryRequest) : Nat :=
  if m.pending = some request then m.waited else 0

theorem access_eq (m : Memory) (request : MemoryRequest) :
    m.access request =
      if m.credit request + 1 < m.latency then
        ({}, { m with pending := some request, waited := m.credit request + 1 })
      else
        ((perform m.storage request).1,
          { m with
            storage := (perform m.storage request).2, pending := none,
            waited := m.credit request + 1 }) := by
  have waited : (if m.pending = some request then m.waited + 1 else 1) = m.credit request + 1 := by
    unfold credit
    split <;> rfl
  unfold access
  simp only [waited]

/-- A request is answered in the last cycle of the latency. -/
theorem ready_access (m : Memory) (request : MemoryRequest) :
    (m.access request).1.ready = true ↔ m.latency ≤ m.credit request + 1 := by
  rw [access_eq]
  by_cases early : m.credit request + 1 < m.latency
  · rw [if_pos early]
    exact ⟨nofun, fun late => by omega⟩
  · rw [if_neg early]
    exact ⟨fun _ => by omega, fun _ => perform_ready ..⟩

@[simp]
theorem latency_access (m : Memory) (request : MemoryRequest) :
    (m.access request).2.latency = m.latency := by
  rw [access_eq]
  split <;> rfl

/-- Only the request that is presented and not answered waits then. -/
theorem credit_access (m : Memory) (request other : MemoryRequest) :
    (m.access request).2.credit other =
      if request = other ∧ (m.access request).1.ready = false then m.credit other + 1 else 0 := by
  have answer := m.ready_access request
  by_cases early : m.credit request + 1 < m.latency
  · have unready : (m.access request).1.ready = false := by
      rw [← Bool.not_eq_true, answer]
      omega
    rw [unready, access_eq, if_pos early]
    by_cases same : request = other
    · subst same
      simp [credit]
    · simp [credit, same]
  · have ready : (m.access request).1.ready = true := answer.mpr (by omega)
    rw [ready, access_eq, if_neg early]
    simp [credit]

end Memory

namespace RecordedPort

variable {δ : Type}

/-- How often a request was presented in a row when last on the port, if it was not answered. -/
def unanswered (port : RecordedPort δ) (request : MemoryRequest) : Nat :=
  (port.record.takeWhile fun a => a.request = request && !a.response.ready).length

/-- No request waits: the last one on the port, if there was one, was answered. -/
def Settled (port : RecordedPort δ) : Prop :=
  ∀ a ∈ port.record.head?, a.response.ready = true

theorem unanswered_eq_zero {port : RecordedPort δ} {request : MemoryRequest} :
    port.unanswered request = 0 ↔
      ∀ a ∈ port.record.head?, a.request = request → a.response.ready = true := by
  unfold unanswered
  cases port.record with
  | nil => simp
  | cons a rest =>
    by_cases same : a.request = request <;> cases ready : a.response.ready <;> simp [same, ready]

theorem Settled.unanswered {port : RecordedPort δ} (settled : port.Settled)
    (request : MemoryRequest) : port.unanswered request = 0 :=
  unanswered_eq_zero.mpr fun a last _ => settled a last

theorem unanswered_access [MemoryPort δ] (port : RecordedPort δ) (request other : MemoryRequest) :
    (MemoryPort.access port request).2.unanswered other =
      if request = other ∧ (MemoryPort.access port request).1.ready = false then
        port.unanswered other + 1
      else 0 := by
  have record : (MemoryPort.access port request).2.record =
      ⟨request, (MemoryPort.access port request).1⟩ :: port.record := rfl
  unfold unanswered
  rw [record, List.takeWhile_cons]
  cases (MemoryPort.access port request).1.ready <;> by_cases same : request = other <;>
    simp [same]

/-- The memory behind the port has counted what the record shows. -/
structure Counts (port : RecordedPort Memory) (latency : Nat) : Prop where
  latency_eq : port.port.latency = latency
  early : ∀ request, port.port.credit request < latency
  credit_eq : ∀ request, port.port.credit request = port.unanswered request

namespace Counts

variable {port : RecordedPort Memory} {latency : Nat}

theorem access (h : port.Counts latency) (request : MemoryRequest) :
    (MemoryPort.access port request).2.Counts latency where
  latency_eq := (port.port.latency_access request).trans h.latency_eq
  early other := by
    have start := h.early other
    have answer := port.port.ready_access request
    change (port.port.access request).2.credit other < latency
    rw [port.port.credit_access]
    split
    case isTrue waits =>
      obtain ⟨rfl, unready⟩ := waits
      rw [← Bool.not_eq_true, answer, h.latency_eq] at unready
      omega
    case isFalse => omega
  credit_eq other := by
    change (port.port.access request).2.credit other = _
    rw [port.port.credit_access, unanswered_access, h.credit_eq other]
    rfl

/-- A request that is answered has been presented for the whole latency. -/
theorem of_ready (h : port.Counts latency) {request : MemoryRequest}
    (ready : (MemoryPort.access port request).1.ready = true) :
    port.unanswered request + 1 = latency := by
  have late := (port.port.ready_access request).mp ready
  have early := h.early request
  rw [h.latency_eq] at late
  rw [← h.credit_eq]
  omega

end Counts

end RecordedPort

/-! ## Cycles of the pipeline -/

namespace Pipeline

variable {ι σ : Type} [MemoryPort ι] [Coprocessor σ]
  {p : Pipeline ι (RecordedPort Memory) σ} {latency : Nat}

theorem tick_counts (counts : p.dmem.Counts latency) (inputs : Inputs) :
    (p.tick inputs).next.dmem.Counts latency := by
  cases p.tick_dataTurn inputs with
  | interrupted _ port => exact port ▸ counts
  | held port => exact port ▸ counts
  | empty _ port => exact port ▸ counts
  | passed _ _ port => exact port ▸ counts
  | waits _ _ _ port => exact port ▸ counts.access _
  | answered _ _ _ port => exact port ▸ counts.access _

theorem run_counts (counts : p.dmem.Counts latency) (schedule : Schedule) :
    (p.run schedule).dmem.Counts latency :=
  run_invariant (fun p : Pipeline ι (RecordedPort Memory) σ => p.dmem.Counts latency) counts
    schedule fun _ inputs _ h => tick_counts h inputs

/-- A cycle that holds the memory stage presents its request at most once more, and counts it. -/
theorem tick_of_held {x : ExMem} {request : MemoryRequest} (access : x.request? = some request)
    (inputs : Inputs) (entry : p.core.latches.exMem = some x)
    (held : (p.tick inputs).report.interlock.fate .memory = .hold) :
    (p.tick inputs).next.core.latches.exMem = some x ∧
      (∀ a ∈ dataChannel.traffic p inputs, a.request = request) ∧
      (p.tick inputs).next.dmem.unanswered request =
        p.dmem.unanswered request + (dataChannel.traffic p inputs).length := by
  change _ ∧ (∀ a ∈ (p.tick inputs).next.dmem.since p.dmem, _) ∧
    _ = _ + ((p.tick inputs).next.dmem.since p.dmem).length
  cases p.tick_dataTurn inputs with
  | interrupted _ _ _ fate => cases held.symm.trans fate
  | held port kept =>
    rw [port, RecordedPort.since_self]
    exact ⟨kept.trans entry, nofun, rfl⟩
  | empty _ _ _ fate => cases held.symm.trans fate
  | passed _ _ _ _ fate => cases held.symm.trans fate
  | waits same presented unready port _ kept =>
    cases same.symm.trans entry
    cases presented.symm.trans access
    rw [port, RecordedPort.since_access, RecordedPort.unanswered_access, if_pos ⟨rfl, unready⟩]
    exact ⟨kept, fun a member => by rw [List.mem_singleton.mp member], rfl⟩
  | answered _ _ _ _ _ _ _ fate => cases held.symm.trans fate

/-- A cycle in which an access moves on presents it, and it is answered. -/
theorem tick_of_leaving (counts : p.dmem.Counts latency) {x : ExMem} {request : MemoryRequest}
    (access : x.request? = some request) (inputs : Inputs)
    (entry : p.core.latches.exMem = some x)
    (leaves : (p.tick inputs).report.interlock.fate .memory = .advance) :
    (∀ a ∈ dataChannel.traffic p inputs, a.request = request) ∧
      (dataChannel.traffic p inputs).length = 1 ∧ p.dmem.unanswered request + 1 = latency := by
  change (∀ a ∈ (p.tick inputs).next.dmem.since p.dmem, _) ∧
    ((p.tick inputs).next.dmem.since p.dmem).length = 1 ∧ _
  cases p.tick_dataTurn inputs with
  | interrupted _ _ _ fate => cases leaves.symm.trans fate
  | held _ _ _ fate => cases leaves.symm.trans fate
  | empty none => cases none.symm.trans entry
  | passed same pass =>
    cases same.symm.trans entry
    cases pass.symm.trans access
  | waits _ _ _ _ _ _ _ fate => cases leaves.symm.trans fate
  | answered same presented ready port =>
    cases same.symm.trans entry
    cases presented.symm.trans access
    rw [port, RecordedPort.since_access]
    exact ⟨fun a member => by rw [List.mem_singleton.mp member], rfl, counts.of_ready ready⟩

/-- A request that waits is that of the instruction in the memory stage. -/
def WaitsInPlace (p : Pipeline ι (RecordedPort Memory) σ) : Prop :=
  ∀ request, p.dmem.unanswered request ≠ 0 → p.Presenting request

/-- If an interrupt finds no request waiting, the requests that wait stay in place; and no request
waits after a cycle that does not hold the memory stage. -/
theorem WaitsInPlace.tick (inPlace : p.WaitsInPlace) {inputs : Inputs}
    (calm : inputs.interrupt = true → p.dmem.Settled) :
    (p.tick inputs).next.WaitsInPlace ∧
      ((p.tick inputs).report.interlock.fate .memory ≠ .hold →
        ∀ request, (p.tick inputs).next.dmem.unanswered request = 0) := by
  have none_waits (port : (p.tick inputs).next.dmem = p.dmem)
      (absent : ∀ request, p.dmem.unanswered request = 0) :
      (p.tick inputs).next.WaitsInPlace ∧
        ((p.tick inputs).report.interlock.fate .memory ≠ .hold →
          ∀ request, (p.tick inputs).next.dmem.unanswered request = 0) := by
    rw [← port] at absent
    exact ⟨fun request waits => absurd (absent request) waits, fun _ => absent⟩
  have unless_present (absent : ∀ request, ¬ p.Presenting request) (request : MemoryRequest) :
      p.dmem.unanswered request = 0 :=
    Decidable.not_not.mp fun waits => absent request (inPlace request waits)
  cases p.tick_dataTurn inputs with
  | interrupted interrupt port =>
    rw [p.tick_interrupt] at interrupt
    exact none_waits port (calm interrupt).unanswered
  | held port kept _ fate =>
    refine ⟨fun request waits => ?_, fun leaves => absurd fate leaves⟩
    rw [port] at waits
    obtain ⟨x, entry, access⟩ := inPlace request waits
    exact ⟨x, kept.trans entry, access⟩
  | empty entry port =>
    refine none_waits port (unless_present ?_)
    rintro request ⟨x, same, -⟩
    cases same.symm.trans entry
  | passed entry pass port =>
    refine none_waits port (unless_present ?_)
    rintro request ⟨x, same, access⟩
    cases same.symm.trans entry
    cases access.symm.trans pass
  | @waits x request entry access unready port _ kept _ fate =>
    refine ⟨fun other waits => ?_, fun leaves => absurd fate leaves⟩
    rw [port, RecordedPort.unanswered_access] at waits
    by_cases same : request = other
    · subst same
      exact ⟨x, kept, access⟩
    · simp [same] at waits
  | answered _ _ ready port =>
    have absent (request : MemoryRequest) :
        (p.tick inputs).next.dmem.unanswered request = 0 := by
      rw [port, RecordedPort.unanswered_access, ready]
      simp
    exact ⟨fun request waits => absurd (absent request) waits, fun _ => absent⟩

/-! ## Whole stays -/

/-- At most one access is presented in a cycle. -/
theorem length_traffic_le {δ : Type} [MemoryPort δ] (p : Pipeline ι (RecordedPort δ) σ)
    (inputs : Inputs) : (dataChannel.traffic p inputs).length ≤ 1 := by
  change ((p.tick inputs).next.dmem.since p.dmem).length ≤ 1
  cases p.tick_dataTurn inputs with
  | interrupted _ port => simp [port, RecordedPort.since_self]
  | held port => simp [port, RecordedPort.since_self]
  | empty _ port => simp [port, RecordedPort.since_self]
  | passed _ _ port => simp [port, RecordedPort.since_self]
  | waits _ _ _ port => simp [port, RecordedPort.since_access]
  | answered _ _ _ port => simp [port, RecordedPort.since_access]

/-- What is presented until an access moves on, and what was presented of it before, make up the
latency. -/
theorem presented_until_leaving (counts : p.dmem.Counts latency) {x : ExMem}
    {request : MemoryRequest} (entry : p.core.latches.exMem = some x)
    (access : x.request? = some request) {during : Schedule} {last : Inputs}
    (held : ∀ r ∈ p.reports during, r.interlock.fate .memory = .hold)
    (leaves : ((p.run during).tick last).report.interlock.fate .memory = .advance) :
    (∀ a ∈ dataChannel.along p (during ++ [last]), a.request = request) ∧
      (dataChannel.along p (during ++ [last])).length + p.dmem.unanswered request = latency := by
  have counts' := run_counts counts during
  obtain ⟨entry', waited, total⟩ := dataChannel.along_held (·.core.latches.exMem = some x)
    (·.request = request) (·.dmem.unanswered request)
    (fun _ inputs => tick_of_held access inputs) entry during held
  obtain ⟨presented, once, answered⟩ := tick_of_leaving counts' access last entry' leaves
  rw [Channel.along_append, Channel.along_singleton]
  constructor
  · intro a member
    rcases List.mem_append.mp member with earlier | final
    · exact waited a earlier
    · exact presented a final
  · rw [List.length_append, once]
    omega

/-- A load or store that moves on from the memory stage was presented in as many cycles of its stay
as the latency says, less those in which the same request was given up just before. So the latency
is exact unless an interrupt has found an access waiting. The instruction port, the coprocessors
and the environment may do what they like. -/
theorem data_latency (config : Configuration) (regs : RegisterFile) (imem : ι) {m : Memory}
    (idle : m.pending = none) (positive : 1 ≤ m.latency) (bank : Bank σ)
    (before during : Schedule) (last : Inputs) (x : ExMem) (request : MemoryRequest) :
    let p := (create config imem ({ port := m } : RecordedPort Memory) bank).seeded regs
    let now := p.run before
    let accesses := dataChannel.along now (during ++ [last])
    now.core.latches.exMem = some x → x.request? = some request →
    p.Stays .memory before during →
    ((now.run during).tick last).report.interlock.fate .memory = .advance →
      (∀ earlier inputs, (dataChannel.traffic (p.run earlier) inputs).length ≤ 1) ∧
      (∀ a ∈ accesses, a.request = request) ∧
      accesses.length + now.dmem.unanswered request = m.latency ∧
      ((∀ earlier inputs, earlier ++ [inputs] <+: before → inputs.interrupt = true →
          (p.run earlier).dmem.Settled) → accesses.length = m.latency) := by
  intro p now accesses entry access stay leaves
  have start : p.dmem.Counts m.latency := by
    have nothing (request : MemoryRequest) : m.credit request = 0 := by
      simp [Memory.credit, idle]
    refine ⟨rfl, fun request => ?_, nothing⟩
    change m.credit request < m.latency
    rw [nothing]
    exact positive
  have counts : now.dmem.Counts m.latency := run_counts start before
  obtain ⟨own, total⟩ := presented_until_leaving counts entry access stay.held leaves
  refine ⟨fun _ => length_traffic_le _, own, total, fun calm => ?_⟩
  have nothing : p.WaitsInPlace := fun request waits => absurd rfl waits
  have inPlace (earlier : Schedule) (begins : earlier <+: before) :
      (p.run earlier).WaitsInPlace :=
    run_invariant WaitsInPlace nothing earlier fun first inputs sooner h =>
      (h.tick (calm first inputs (sooner.trans begins))).1
  have fresh : ∀ request, now.dmem.unanswered request = 0 := by
    refine stay.entered (∀ request, ·.dmem.unanswered request = 0) (fun _ => rfl)
      fun earlier inputs split exits => ?_
    have begins : earlier ++ [inputs] <+: before := split ▸ List.prefix_refl _
    have inPlace := inPlace earlier ((List.prefix_append ..).trans begins)
    exact (inPlace.tick (calm earlier inputs begins)).2 exits
  have none_before := fresh request
  change accesses.length + _ = _ at total
  omega

end Pipeline

/-! ## A wait that is credited -/

/-- A data memory of the one word `lw x1, 0(x0)`, which every address reaches, with a latency of
three cycles. -/
def reloadingMemory : Memory :=
  (Memory.create 4 3).write 0 0x00002083 0xF

/-- The same word is fetched without a wait. -/
def reloading : Pipeline Memory (RecordedPort Memory) ReferenceUnit :=
  (Pipeline.create {} { reloadingMemory with latency := 1 } { port := reloadingMemory }
    (.reference (.const 1))).seeded .zero

/-- The first load is presented for three cycles. -/
theorem data_latency_reloading :
    reloading.Stays .memory (.quiet 3) (.quiet 2) ∧
      (dataChannel.along (reloading.run (.quiet 3)) (.quiet 3)).length = 3 := by
  have stay : reloading.Stays .memory (.quiet 3) (.quiet 2) :=
    .of_last (.quiet 2) {} rfl (by decide +kernel) (by decide +kernel)
  obtain ⟨x, entry⟩ := Option.isSome_iff_exists.mp
    (by decide +kernel : (reloading.run (.quiet 3)).core.latches.exMem.isSome = true)
  have load : ∀ x ∈ (reloading.run (.quiet 3)).core.latches.exMem,
      x.request? = some (.read 0) := by
    decide +kernel
  have calm (earlier : Schedule) (inputs : Inputs)
      (begins : earlier ++ [inputs] <+: Schedule.quiet 3)
      (interrupt : inputs.interrupt = true) : (reloading.run earlier).dmem.Settled := by
    have quiet : ∀ inputs ∈ Schedule.quiet 3, inputs.interrupt = false := by decide
    have member := begins.subset (List.mem_append_right earlier (List.mem_singleton_self inputs))
    exact absurd (interrupt.symm.trans (quiet inputs member)) nofun
  have latency := Pipeline.data_latency {} .zero { reloadingMemory with latency := 1 }
    (m := reloadingMemory) rfl (by decide) (.reference (.const 1)) (.quiet 3) (.quiet 2) {} x
    (.read 0)
  obtain ⟨-, -, -, exactly⟩ := latency entry (load x entry) stay (by decide +kernel)
  exact ⟨stay, exactly calm⟩

/-- An interrupt gives up the first load after one cycle, and the load that is fetched then is
presented for two cycles only. -/
theorem latency_of_given_up :
    let before := Schedule.quiet 4 ++ { interrupt := true } :: Schedule.quiet 3
    (∃ x, (reloading.run before).core.latches.exMem = some x ∧ x.request? = some (.read 0)) ∧
      reloading.Stays .memory before (.quiet 1) ∧
      ((reloading.run (before ++ .quiet 1)).tick {}).report.interlock.fate .memory = .advance ∧
      reloading.dmem.port.latency = 3 ∧
      (dataChannel.along (reloading.run before) (.quiet 2)).length = 2 := by
  intro before
  have stay : reloading.Stays .memory before (.quiet 1) :=
    .of_last (Schedule.quiet 4 ++ { interrupt := true } :: Schedule.quiet 2) {} rfl
      (by decide +kernel) (by decide +kernel)
  have load : ∀ x ∈ (reloading.run before).core.latches.exMem, x.request? = some (.read 0) := by
    decide +kernel
  obtain ⟨x, entry⟩ := Option.isSome_iff_exists.mp
    (by decide +kernel : (reloading.run before).core.latches.exMem.isSome = true)
  exact ⟨⟨x, entry, load x entry⟩, stay, by decide +kernel, by decide, by decide +kernel⟩

end FiveStage
