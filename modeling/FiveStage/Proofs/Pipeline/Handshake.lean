import FiveStage.Coprocessor.Recorded
import FiveStage.Coprocessor.Reference
import FiveStage.Memory.Recorded
import FiveStage.Memory.Timed
import FiveStage.Pipeline.Schedule
import FiveStage.Proofs.Pipeline.Traffic

/-!
# Requests are stable

A request that is not answered is presented again until it is: on the data port unless an interrupt
is taken, on the instruction port unless something is flushed, and to a coprocessor unless the bank
is told of a trap. The argument is the same each time, so it is made once, for a `Channel`. A
request that waits stands in a part of the state, a latch or the program counter; a cycle without
traffic keeps that part, and the next traffic presents what stands there.
-/

namespace FiveStage

/-- A way on which requests leave the pipeline: what passes in a cycle, which of it is a request
that is not answered, and which cycles do not give up a request. -/
structure Channel (ι δ σ α β : Type) where
  traffic : Pipeline ι δ σ → Inputs → List α
  request : α → β
  waits : α → Prop
  calm : Report → Prop

namespace Channel

variable {ι δ σ α β : Type} [MemoryPort ι] [MemoryPort δ] [Coprocessor σ]

/-- What passes along a schedule, in order. -/
def along (c : Channel ι δ σ α β) (p : Pipeline ι δ σ) : Schedule → List α
  | [] => []
  | inputs :: rest => c.traffic p inputs ++ c.along (p.tick inputs).next rest

/-- Once a request waits, the next traffic is the same request, unless it is given up in between. -/
def Stable (c : Channel ι δ σ α β) (p : Pipeline ι δ σ) : Prop :=
  ∀ (first : Inputs) (between : Schedule) (last : Inputs) (a b : α),
    let waiting := (p.tick first).next
    let later := waiting.run between
    a ∈ c.traffic p first → c.waits a →
    (∀ r ∈ waiting.reports between, c.calm r) → c.along waiting between = [] →
    b ∈ c.traffic later last → c.request b = c.request a

/-- What each calm cycle without traffic keeps, a calm run without traffic keeps. -/
theorem run_keeps (c : Channel ι δ σ α β) {stands : Pipeline ι δ σ → Prop}
    (keeps : ∀ p inputs, stands p → c.calm (p.tick inputs).report →
      c.traffic p inputs = [] → stands (p.tick inputs).next)
    {p : Pipeline ι δ σ} (start : stands p) (schedule : Schedule)
    (calm : ∀ r ∈ p.reports schedule, c.calm r) (silent : c.along p schedule = []) :
    stands (p.run schedule) := by
  induction schedule generalizing p with
  | nil => exact start
  | cons inputs rest ih =>
    obtain ⟨now, later⟩ := List.append_eq_nil_iff.mp silent
    have next := keeps p inputs start (calm _ (List.mem_cons_self ..)) now
    exact ih next (fun r member => calm r (List.mem_cons_of_mem _ member)) later

/-- A channel is stable if its requests stand somewhere in the state until they are answered. -/
theorem stable_of_stands (c : Channel ι δ σ α β) (stands : β → Pipeline ι δ σ → Prop)
    (one : ∀ {p r s}, stands r p → stands s p → r = s)
    (presents : ∀ {p inputs a}, a ∈ c.traffic p inputs → stands (c.request a) p)
    (waits : ∀ {p inputs a}, a ∈ c.traffic p inputs → c.waits a →
      stands (c.request a) (p.tick inputs).next)
    (keeps : ∀ {p inputs r}, stands r p → c.calm (p.tick inputs).report →
      c.traffic p inputs = [] → stands r (p.tick inputs).next)
    (p : Pipeline ι δ σ) : c.Stable p := by
  intro first between last a b waiting later started unanswered calm silent next
  have still : stands (c.request a) later :=
    c.run_keeps (fun _ _ => keeps) (waits started unanswered) between calm silent
  exact one (presents next) still

end Channel

/-! ## The memory ports -/

section Ports

variable {ι δ σ : Type} [MemoryPort ι] [MemoryPort δ] [Coprocessor σ]

/-- The data port, on which an interrupt gives up a request. -/
def dataChannel : Channel ι (RecordedPort δ) σ Access MemoryRequest where
  traffic p inputs := (p.tick inputs).next.dmem.since p.dmem
  request a := a.request
  waits a := a.response.ready = false
  calm r := r.interlock.flushes.interrupt = false

/-- The request is that of the instruction in the memory stage. -/
def Pipeline.Presenting (request : MemoryRequest) (p : Pipeline ι δ σ) : Prop :=
  ∃ x, p.core.latches.exMem = some x ∧ x.request? = some request

/-- What passes on the data port is the request of the instruction in the memory stage, which is
kept if it is not answered. -/
theorem presenting_of_traffic {p : Pipeline ι (RecordedPort δ) σ} {inputs : Inputs} {a : Access}
    (passes : a ∈ (p.tick inputs).next.dmem.since p.dmem) :
    p.Presenting a.request ∧
      (a.response.ready = false → (p.tick inputs).next.Presenting a.request) := by
  cases p.tick_dataTurn inputs with
  | interrupted _ port => simp [port, RecordedPort.since_self] at passes
  | held port => simp [port, RecordedPort.since_self] at passes
  | empty _ port => simp [port, RecordedPort.since_self] at passes
  | passed _ _ port => simp [port, RecordedPort.since_self] at passes
  | @waits x request entry access _ port _ kept =>
    rw [port, RecordedPort.since_access] at passes
    cases List.mem_singleton.mp passes
    exact ⟨⟨x, entry, access⟩, fun _ => ⟨x, kept, access⟩⟩
  | @answered x request entry access ready port =>
    rw [port, RecordedPort.since_access] at passes
    cases List.mem_singleton.mp passes
    exact ⟨⟨x, entry, access⟩, fun unready => absurd (ready.symm.trans unready) nofun⟩

theorem Pipeline.Presenting.kept {p : Pipeline ι (RecordedPort δ) σ} {inputs : Inputs}
    {request : MemoryRequest} (stands : p.Presenting request)
    (calm : (p.tick inputs).report.interlock.flushes.interrupt = false)
    (silent : (p.tick inputs).next.dmem.since p.dmem = []) :
    (p.tick inputs).next.Presenting request := by
  obtain ⟨x, entry, access⟩ := stands
  cases p.tick_dataTurn inputs with
  | interrupted interrupt => exact absurd (interrupt.symm.trans calm) nofun
  | held _ kept => exact ⟨x, kept.trans entry, access⟩
  | empty none => cases entry.symm.trans none
  | passed other pass =>
    cases entry.symm.trans other
    cases access.symm.trans pass
  | waits _ _ _ port =>
    rw [port, RecordedPort.since_access] at silent
    cases silent
  | answered _ _ _ port =>
    rw [port, RecordedPort.since_access] at silent
    cases silent

theorem dataChannel_stable (p : Pipeline ι (RecordedPort δ) σ) : dataChannel.Stable p := by
  refine dataChannel.stable_of_stands Pipeline.Presenting ?_ ?_ ?_ ?_ p
  · rintro p r s ⟨x, entry, access⟩ ⟨y, other, access'⟩
    cases entry.symm.trans other
    exact Option.some.inj (access.symm.trans access')
  · exact fun passes => (presenting_of_traffic passes).1
  · exact fun passes => (presenting_of_traffic passes).2
  · exact fun stands => stands.kept

/-- The instruction port, on which any flush gives up a request. -/
def fetchChannel : Channel (RecordedPort ι) δ σ Access Word where
  traffic p inputs := (p.tick inputs).next.imem.since p.imem
  request a := a.request.address
  waits a := a.response.ready = false
  calm r := r.flushed = false

/-- What passes on the instruction port is a read at the program counter, which is kept if the read
is not answered. -/
theorem pc_of_traffic {p : Pipeline (RecordedPort ι) δ σ} {inputs : Inputs} {a : Access}
    (passes : a ∈ (p.tick inputs).next.imem.since p.imem) :
    a.request.address = p.core.pc ∧
      (a.response.ready = false → a.request.address = (p.tick inputs).next.core.pc) := by
  cases p.tick_fetchTurn inputs with
  | redirected _ port => simp [port, RecordedPort.since_self] at passes
  | held port => simp [port, RecordedPort.since_self] at passes
  | waits _ port kept =>
    rw [port, RecordedPort.since_access] at passes
    cases List.mem_singleton.mp passes
    exact ⟨rfl, fun _ => kept.symm⟩
  | answered ready port =>
    rw [port, RecordedPort.since_access] at passes
    cases List.mem_singleton.mp passes
    exact ⟨rfl, fun unready => absurd (ready.symm.trans unready) nofun⟩

theorem pc_kept {p : Pipeline (RecordedPort ι) δ σ} {inputs : Inputs}
    (calm : (p.tick inputs).report.flushed = false)
    (silent : (p.tick inputs).next.imem.since p.imem = []) :
    (p.tick inputs).next.core.pc = p.core.pc := by
  cases p.tick_fetchTurn inputs with
  | redirected flush => simp [Report.flushed, flush] at calm
  | held _ kept => exact kept
  | waits _ port =>
    rw [port, RecordedPort.since_access] at silent
    cases silent
  | answered _ port =>
    rw [port, RecordedPort.since_access] at silent
    cases silent

theorem fetchChannel_stable (p : Pipeline (RecordedPort ι) δ σ) : fetchChannel.Stable p := by
  refine fetchChannel.stable_of_stands (fun address p => address = p.core.pc) ?_ ?_ ?_ ?_ p
  · exact fun first second => first.trans second.symm
  · exact fun passes => (pc_of_traffic passes).1
  · exact fun passes => (pc_of_traffic passes).2
  · exact fun stands calm silent => stands.trans (pc_kept calm silent).symm

end Ports

/-! ## The coprocessors -/

/-- An operation that was offered to a unit, and its answer. -/
structure Offer where
  slot : Slot
  offload : Offload
  response : CoprocessorResponse
  deriving DecidableEq, Repr

/-- What a unit in a slot has on record as an offer. -/
def UnitEvent.offer? (slot : Slot) : UnitEvent → Option Offer
  | cycle (some offload) response => some { slot, offload, response }
  | _ => none

/-- What the units hear of a cycle once it is over. -/
def Report.notices (r : Report) : List UnitEvent :=
  (if r.retired.isSome then [.retired] else []) ++ r.trap.toList.map .trapTaken

section Units

variable {ι δ σ : Type} [MemoryPort ι] [MemoryPort δ] [Coprocessor σ]

namespace Pipeline

variable (p : Pipeline ι δ (RecordedUnit σ)) (inputs : Inputs)

/-- What happens to the unit in a slot during a cycle. -/
def told (slot : Slot) : List UnitEvent :=
  ((p.tick inputs).next.bank.get slot).since (p.bank.get slot)

/-- What the units are offered during a cycle. -/
def offers : List Offer :=
  Slot.all.flatMap fun slot => (p.told inputs slot).filterMap (·.offer? slot)

end Pipeline

/-- The bank, which gives up a request when it is told of a trap. -/
def unitChannel : Channel ι δ (RecordedUnit σ) Offer (Slot × Offload) where
  traffic := Pipeline.offers
  request o := (o.slot, o.offload)
  waits o := o.response.ready = false ∧ o.response.exception = false
  calm r := r.trap = none

/-- What the units record of a cycle of `p`. -/
structure Clocked (p : Pipeline ι δ (RecordedUnit σ)) (inputs : Inputs) : Prop where
  /-- Each unit is called once. -/
  cycles : ∀ slot,
    ((p.tick inputs).next.bank.get slot).cycles = (p.bank.get slot).cycles + 1
  /-- At most one of them is offered an operation. -/
  offers : (p.offers inputs).length ≤ 1
  /-- All of them hear of a trap that is reported, and of no other. -/
  traps : ∀ slot trap,
    .trapTaken trap ∈ p.told inputs slot ↔ (p.tick inputs).report.trap = some trap

theorem Report.history_notify (r : Report) (bank : Bank (RecordedUnit σ)) (slot : Slot) :
    ((r.notify bank).get slot).history = (bank.get slot).history ++ r.notices := by
  unfold notify notices
  cases r.retired <;> cases r.trap <;>
    simp [Bank.retired, Bank.trapTaken, RecordedUnit.history_retired,
      RecordedUnit.history_trapTaken]

/-- A notice is no offer. -/
theorem Report.filterMap_notices (r : Report) (slot : Slot) :
    r.notices.filterMap (·.offer? slot) = [] := by
  unfold notices
  cases r.retired <;> cases r.trap <;> rfl

theorem Report.countP_notices (r : Report) : r.notices.countP (·.isCycle) = 0 := by
  unfold notices
  cases r.retired <;> cases r.trap <;> rfl

theorem Report.mem_notices {r : Report} {trap : Trap} :
    .trapTaken trap ∈ r.notices ↔ r.trap = some trap := by
  unfold notices
  cases r.retired <;> cases r.trap <;> simp [eq_comm]

namespace Pipeline

variable {p : Pipeline ι δ (RecordedUnit σ)} {inputs : Inputs} {select : Option Slot}
  {offload : Option Offload}

/-- Each unit records its own part of what the bank is offered, and then the notices. -/
theorem history_tick
    (bank : (p.tick inputs).next.bank =
      (p.tick inputs).report.notify (p.bank.cycle select offload).2) (slot : Slot) :
    ((p.tick inputs).next.bank.get slot).history =
      (p.bank.get slot).history ++
        .cycle (Bank.offered select offload slot)
          (Coprocessor.respond (p.bank.get slot) (Bank.offered select offload slot)).1 ::
          (p.tick inputs).report.notices := by
  rw [bank, Report.history_notify, Bank.get_cycle, RecordedUnit.history_respond, List.append_assoc]
  rfl

theorem told_eq
    (bank : (p.tick inputs).next.bank =
      (p.tick inputs).report.notify (p.bank.cycle select offload).2) (slot : Slot) :
    p.told inputs slot =
      .cycle (Bank.offered select offload slot)
        (Coprocessor.respond (p.bank.get slot) (Bank.offered select offload slot)).1 ::
        (p.tick inputs).report.notices := by
  unfold told RecordedUnit.since
  rw [history_tick bank, List.drop_left]

/-- What the units are offered is what the bank is offered. -/
theorem offers_of_none
    (bank : (p.tick inputs).next.bank =
      (p.tick inputs).report.notify (p.bank.cycle none none).2) : p.offers inputs = [] := by
  refine List.flatMap_eq_nil_iff.mpr fun slot _ => ?_
  rw [told_eq bank]
  exact Report.filterMap_notices _ slot

theorem offers_of_some {slot : Slot} {request : Offload}
    (bank : (p.tick inputs).next.bank =
      (p.tick inputs).report.notify (p.bank.cycle (some slot) (some request)).2) :
    p.offers inputs = [⟨slot, request, (p.bank.cycle (some slot) (some request)).1⟩] := by
  have each (other : Slot) : (p.told inputs other).filterMap (·.offer? other) =
      if slot = other then [⟨slot, request, (p.bank.cycle (some slot) (some request)).1⟩]
      else [] := by
    rw [told_eq bank, List.filterMap_cons, Report.filterMap_notices, Bank.cycle_answer]
    unfold Bank.offered
    by_cases same : slot = other
    · subst same
      simp [UnitEvent.offer?]
    · simp [same, UnitEvent.offer?]
  unfold offers
  simp only [each]
  cases slot <;> rfl

theorem clocked_of_bank
    (bank : (p.tick inputs).next.bank =
      (p.tick inputs).report.notify (p.bank.cycle select offload).2)
    (offers : (p.offers inputs).length ≤ 1) : Clocked p inputs := by
  refine ⟨fun slot => ?_, offers, fun slot trap => ?_⟩
  · rw [RecordedUnit.cycles_eq, RecordedUnit.cycles_eq, history_tick bank, List.countP_append,
      List.countP_cons_of_pos rfl, Report.countP_notices]
  · rw [told_eq bank, List.mem_cons, Report.mem_notices]
    exact ⟨fun told => told.resolve_left nofun, .inr⟩

/-- Every cycle clocks the units. -/
theorem clocked (p : Pipeline ι δ (RecordedUnit σ)) (inputs : Inputs) : Clocked p inputs := by
  cases p.tick_unitTurn inputs with
  | silent bank => exact clocked_of_bank bank (by rw [offers_of_none bank]; exact Nat.zero_le _)
  | offered _ _ bank =>
    exact clocked_of_bank bank (by rw [offers_of_some bank]; exact Nat.le_refl _)

/-- The operation is that of the instruction in the execute stage, for its unit. -/
def Offering (request : Slot × Offload) (p : Pipeline ι δ σ) : Prop :=
  ∃ e, p.core.latches.idEx = some e ∧ e.inst.slot? = some request.1 ∧ e.request = request.2

/-- What is offered is the operation of the instruction in the execute stage, which is kept if it is
not answered. -/
theorem offering_of_offer {o : Offer} (passes : o ∈ p.offers inputs) :
    p.Offering (o.slot, o.offload) ∧
      (o.response.ready = false ∧ o.response.exception = false →
        (p.tick inputs).next.Offering (o.slot, o.offload)) := by
  cases p.tick_unitTurn inputs with
  | silent bank =>
    rw [offers_of_none bank] at passes
    cases passes
  | @offered e slot entry owned bank kept =>
    rw [offers_of_some bank] at passes
    cases List.mem_singleton.mp passes
    exact ⟨⟨e, entry, owned, rfl⟩, fun waits => ⟨e, kept waits.2 waits.1, owned, rfl⟩⟩

theorem Offering.kept {request : Slot × Offload} (stands : p.Offering request)
    (calm : (p.tick inputs).report.trap = none) (silent : p.offers inputs = []) :
    (p.tick inputs).next.Offering request := by
  obtain ⟨e, entry, owned, same⟩ := stands
  cases p.tick_unitTurn inputs with
  | silent _ kept => exact ⟨e, kept calm e entry (by rw [owned]; rfl), owned, same⟩
  | offered _ _ bank =>
    rw [offers_of_some bank] at silent
    cases silent

end Pipeline

theorem unitChannel_stable (p : Pipeline ι δ (RecordedUnit σ)) : unitChannel.Stable p := by
  refine unitChannel.stable_of_stands Pipeline.Offering ?_ ?_ ?_ ?_ p
  · rintro p r s ⟨e, entry, owned, same⟩ ⟨e', entry', owned', same'⟩
    cases entry.symm.trans entry'
    exact Prod.ext (Option.some.inj (owned.symm.trans owned')) (same.symm.trans same')
  · exact fun passes => (Pipeline.offering_of_offer passes).1
  · exact fun passes => (Pipeline.offering_of_offer passes).2
  · exact fun stands => stands.kept

end Units

/-! ## All channels -/

/-- Requests are stable until they are answered. Whatever the memory ports, the coprocessors and the
environment do from any state: after a data access that is not answered the next data access is the
same request, unless an interrupt is taken in between; after an instruction fetch that is not
answered the next one is for the same address, unless a flush is reported in between; every unit of
the bank is called once in a cycle and at most one is offered an operation; and after an offer that
is neither answered nor refused the next offer is the same operation to the same unit, unless the
units are told of a trap in between. -/
theorem requests_stable {ι δ σ : Type} [MemoryPort ι] [MemoryPort δ] [Coprocessor σ]
    (p : Pipeline (RecordedPort ι) (RecordedPort δ) (RecordedUnit σ)) :
    dataChannel.Stable p ∧ fetchChannel.Stable p ∧ (∀ inputs, Clocked p inputs) ∧
      unitChannel.Stable p :=
  ⟨dataChannel_stable p, fetchChannel_stable p, p.clocked, unitChannel_stable p⟩

/-- A slow memory of one word, which every address reaches, and a slow bank. -/
def slow (word : Word) : Pipeline (RecordedPort Memory) (RecordedPort Memory)
    (RecordedUnit ReferenceUnit) :=
  let memory := (Memory.create 4 2).write 0 word 0xF
  .create {} { port := memory } { port := memory }
    ((Bank.reference (.const 3)).map fun unit => { unit })

/-- A load waits for the data port, a fetch for the instruction port while an operation of CP2 waits
for its unit, and that operation while the environment stalls. -/
theorem requests_stable_slow :
    let loading := (slow 0x00002083).run (.quiet 4)
    let fetching := (slow 0x0000000B).run (.quiet 2)
    let offering := (slow 0x0000000B).run (.quiet 3)
    let stall : Schedule := [{ externalStall := true }]
    (∃ a ∈ dataChannel.traffic loading {}, ∃ b ∈ dataChannel.traffic
        ((loading.tick {}).next.run stall) {}, a.response.ready = false ∧ b.request = a.request) ∧
      (∃ a ∈ fetchChannel.traffic fetching {}, ∃ b ∈ fetchChannel.traffic
        ((fetching.tick {}).next.run (.quiet 2)) {},
          a.response.ready = false ∧ b.request.address = a.request.address) ∧
      ∃ a ∈ offering.offers {}, ∃ b ∈ ((offering.tick {}).next.run stall).offers {},
        a.response.ready = false ∧ (b.slot, b.offload) = (a.slot, a.offload) := by
  intro loading fetching offering stall
  refine ⟨?_, ?_, ?_⟩
  · obtain ⟨a, first⟩ := List.exists_mem_of_ne_nil (dataChannel.traffic loading {})
      (by decide +kernel)
    obtain ⟨b, last⟩ := List.exists_mem_of_ne_nil
      (dataChannel.traffic ((loading.tick {}).next.run stall) {}) (by decide +kernel)
    have waits : ∀ a ∈ dataChannel.traffic loading {}, a.response.ready = false := by
      decide +kernel
    have calm : ∀ r ∈ (loading.tick {}).next.reports stall,
        r.interlock.flushes.interrupt = false := by
      decide +kernel
    exact ⟨a, first, b, last, waits a first, (requests_stable loading).1 {} stall {} a b first
      (waits a first) calm (by decide +kernel) last⟩
  · obtain ⟨a, first⟩ := List.exists_mem_of_ne_nil (fetchChannel.traffic fetching {})
      (by decide +kernel)
    obtain ⟨b, last⟩ := List.exists_mem_of_ne_nil
      (fetchChannel.traffic ((fetching.tick {}).next.run (.quiet 2)) {}) (by decide +kernel)
    have waits : ∀ a ∈ fetchChannel.traffic fetching {}, a.response.ready = false := by
      decide +kernel
    have calm : ∀ r ∈ (fetching.tick {}).next.reports (.quiet 2), r.flushed = false := by
      decide +kernel
    exact ⟨a, first, b, last, waits a first, (requests_stable fetching).2.1 {} (.quiet 2) {} a b
      first (waits a first) calm (by decide +kernel) last⟩
  · obtain ⟨a, first⟩ := List.exists_mem_of_ne_nil (offering.offers {}) (by decide +kernel)
    obtain ⟨b, last⟩ := List.exists_mem_of_ne_nil
      (((offering.tick {}).next.run stall).offers {}) (by decide +kernel)
    have waits : ∀ a ∈ offering.offers {},
        a.response.ready = false ∧ a.response.exception = false := by
      decide +kernel
    have calm : ∀ r ∈ (offering.tick {}).next.reports stall, r.trap = none := by
      decide +kernel
    exact ⟨a, first, b, last, (waits a first).1, (requests_stable offering).2.2.2 {} stall {} a b
      first (waits a first) calm (by decide +kernel) last⟩

end FiveStage
