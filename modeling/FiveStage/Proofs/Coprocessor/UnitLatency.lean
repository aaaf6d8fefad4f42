import FiveStage.Proofs.Coprocessor.ReferenceBank
import FiveStage.Proofs.Memory.Accesses
import FiveStage.Proofs.Pipeline.Causes
import FiveStage.Proofs.Pipeline.Stay

/-!
# The latency of the coprocessors

A unit of the reference bank knows its operation by the request alone, and an identical one could be
credited with its progress. It never is: what a unit has in flight is the operation of the
instruction that is in the execute stage then, and whenever that instruction leaves, by whatever
way, every unit is idle. So each operation is offered for exactly the latency of its unit.
-/

namespace FiveStage

/-! ## Units -/

namespace ReferenceUnit

/-- What the unit has in flight. The system unit answers at once. -/
def inFlight : ReferenceUnit → Option InFlight
  | .inl _ => none
  | .inr u => u.inFlight

/-- The cycles in which an operation has been offered already. -/
def credit (unit : ReferenceUnit) (req : Offload) : Nat :=
  match unit.inFlight with
  | some f => if f.offload = req then f.elapsed else 0
  | none => 0

/-- The unit has a fixed latency, and no operation in flight has had that many cycles. -/
def Timed (unit : ReferenceUnit) (latency : Nat) : Prop :=
  (∃ u, unit = .inr u ∧ u.latency = latency) ∧ ∀ req, unit.credit req < latency

theorem inFlight_respond_none (unit : ReferenceUnit) :
    (Coprocessor.respond unit none).2.inFlight = unit.inFlight := by
  cases unit <;> rfl

theorem respond_inr (u : FixedLatencyUnit) (req : Offload) :
    Coprocessor.respond (.inr u : ReferenceUnit) (some req) =
      if credit (.inr u) req + 1 < u.latency then
        ({}, .inr { u with inFlight := some ⟨req, credit (.inr u) req + 1⟩ })
      else (FixedLatencyUnit.completion u.operation req, .inr { u with inFlight := none }) := by
  have presentations : u.presentations req = credit (.inr u) req + 1 := by
    change (match u.inFlight with | some f => _ | none => _) =
      (match u.inFlight with | some f => _ | none => _) + 1
    cases u.inFlight with
    | none => rfl
    | some f => by_cases same : f.offload = req <;> simp [same]
  change Prod.map id Sum.inr (u.respond (some req)) = _
  unfold FixedLatencyUnit.respond
  simp only [presentations]
  split <;> rfl

/-- What is in flight after an offer is the offered operation, which was not answered. -/
theorem inFlight_respond_some {unit : ReferenceUnit} {req : Offload} {f : InFlight}
    (started : f ∈ (Coprocessor.respond unit (some req)).2.inFlight) :
    f.offload = req ∧ (Coprocessor.respond unit (some req)).1 = {} := by
  cases unit with
  | inl u => cases started
  | inr u =>
    rw [respond_inr] at started ⊢
    split at started
    case isTrue early =>
      cases started
      rw [if_pos early]
      exact ⟨rfl, rfl⟩
    case isFalse => cases started

@[simp]
theorem inFlight_retired (unit : ReferenceUnit) :
    (Coprocessor.retired unit).inFlight = unit.inFlight := by
  cases unit <;> rfl

@[simp]
theorem inFlight_trapTaken (unit : ReferenceUnit) (trap : Trap) :
    (Coprocessor.trapTaken unit trap).inFlight = none := by
  cases unit <;> rfl

namespace Timed

variable {unit : ReferenceUnit} {latency : Nat}

/-- An offer that is not answered counts, and the last one of the latency is answered. -/
theorem respond_some (h : unit.Timed latency) (req : Offload) :
    (Coprocessor.respond unit (some req)).2.Timed latency ∧
      (((Coprocessor.respond unit (some req)).1 = {} ∧
          (Coprocessor.respond unit (some req)).2.credit req = unit.credit req + 1) ∨
        ((Coprocessor.respond unit (some req)).1.ready = true ∧
          unit.credit req + 1 = latency)) := by
  obtain ⟨⟨u, rfl, rfl⟩, started⟩ := h
  have start := started req
  rw [respond_inr]
  by_cases early : credit (.inr u) req + 1 < u.latency
  · rw [if_pos early]
    refine ⟨⟨⟨_, rfl, rfl⟩, fun other => ?_⟩, .inl ⟨rfl, if_pos rfl⟩⟩
    change (if req = other then _ else 0) < u.latency
    split <;> omega
  · rw [if_neg early]
    refine ⟨⟨⟨_, rfl, rfl⟩, fun _ => ?_⟩, .inr ⟨FixedLatencyUnit.completion_ready .., by omega⟩⟩
    change 0 < u.latency
    omega

theorem respond_none (h : unit.Timed latency) :
    (Coprocessor.respond unit none).2.Timed latency := by
  obtain ⟨⟨u, rfl, same⟩, started⟩ := h
  exact ⟨⟨u, rfl, same⟩, started⟩

theorem retired (h : unit.Timed latency) : (Coprocessor.retired unit).Timed latency := by
  obtain ⟨⟨u, rfl, same⟩, started⟩ := h
  exact ⟨⟨u, rfl, same⟩, started⟩

theorem trapTaken (h : unit.Timed latency) (trap : Trap) :
    (Coprocessor.trapTaken unit trap).Timed latency := by
  obtain ⟨⟨u, rfl, same⟩, started⟩ := h
  refine ⟨⟨u.trapTaken, rfl, same⟩, fun req => ?_⟩
  have start := started req
  change 0 < latency
  omega

end Timed

end ReferenceUnit

/-! ## Banks -/

section Banks

variable {bank : Bank (RecordedUnit ReferenceUnit)}

theorem Report.inFlight_notify (r : Report) (slot : Slot) :
    ((r.notify bank).get slot).unit.inFlight =
      if r.trap.isSome then none else (bank.get slot).unit.inFlight := by
  have retired : ((if r.retired.isSome then bank.retired else bank).get slot).unit.inFlight =
      (bank.get slot).unit.inFlight := by
    cases r.retired with
    | none => rfl
    | some w =>
      have told : (bank.retired.get slot).unit = Coprocessor.retired (bank.get slot).unit := by
        cases slot <;> rfl
      exact (congrArg _ told).trans (ReferenceUnit.inFlight_retired _)
  unfold notify
  cases r.trap with
  | none => exact retired
  | some trap =>
    simp only [Bank.trapTaken, PerSlot.get_map]
    exact ReferenceUnit.inFlight_trapTaken _ trap

theorem Report.timed_notify (r : Report) {slot : Slot} {latency : Nat}
    (timed : (bank.get slot).unit.Timed latency) :
    ((r.notify bank).get slot).unit.Timed latency := by
  have retired : ((if r.retired.isSome then bank.retired else bank).get slot).unit.Timed
      latency := by
    cases r.retired with
    | none => exact timed
    | some w =>
      change (bank.retired.get slot).unit.Timed latency
      rw [Bank.retired, PerSlot.get_map]
      exact timed.retired
  unfold notify
  cases r.trap with
  | none => exact retired
  | some trap =>
    simp only [Bank.trapTaken, PerSlot.get_map]
    exact retired.trapTaken trap

theorem Bank.unit_cycle (select : Option Slot) (offload : Option Offload) (slot : Slot) :
    ((bank.cycle select offload).2.get slot).unit =
      (Coprocessor.respond (bank.get slot).unit (offered select offload slot)).2 := by
  rw [get_cycle]
  rfl

theorem Bank.offered_of_ne {slot other : Slot} (different : other ≠ slot)
    (offload : Option Offload) : offered (some slot) offload other = none :=
  if_neg fun same => different (Option.some.inj same).symm

theorem Bank.offered_self (slot : Slot) (offload : Option Offload) :
    offered (some slot) offload slot = offload :=
  if_pos rfl

end Banks

/-! ## What is reported of the execute stage -/

section Reports

variable {ι δ σ : Type} [MemoryPort ι] [MemoryPort δ] [Coprocessor σ] {p : Pipeline ι δ σ}
  {inputs : Inputs}

/-- A cycle that holds the execute stage takes no trap. -/
theorem Pipeline.trap_of_held
    (held : (p.tick inputs).report.interlock.fate .execute = .hold) :
    (p.tick inputs).report.trap = none := by
  cases p.tick_turn inputs with
  | fetch _ _ trap => exact trap
  | stall _ _ trap => exact trap
  | branch _ _ _ _ _ trap => exact trap
  | exception interlock =>
    rw [interlock] at held
    cases held
  | @interrupt stall _ interlock =>
    rw [interlock] at held
    cases stall <;> exact absurd held nofun

theorem Pipeline.interrupt_of_trap (straight : (p.tick inputs).report.trap = none) :
    (p.tick inputs).report.interlock.flushes.interrupt = false := by
  cases p.tick_turn inputs with
  | fetch _ interlock => rw [interlock]
  | stall _ interlock => rw [interlock]; rfl
  | branch _ _ _ _ interlock => rw [interlock]; rfl
  | exception _ trap => cases straight.symm.trans trap
  | interrupt _ trap => cases straight.symm.trans trap

/-- In the cycle in which an instruction leaves the execute stage for the memory stage, or with an
exception, nothing is waited for there. -/
theorem Pipeline.report_of_leaving
    (leaves : (p.tick inputs).report.interlock.fate .execute = .advance ∨
      (p.tick inputs).report.interlock.flushes.exception = true) :
    (p.tick inputs).report.interlock.flushes.interrupt = false ∧
      (p.tick inputs).report.interlock.fate .execute ≠ .hold ∧
      (p.tick inputs).report.interlock.stalls.contains .coprocessorNotReady = false := by
  cases p.tick_turn inputs with
  | fetch _ interlock => rw [interlock]; decide
  | @stall reason stage cause interlock =>
    rw [interlock] at leaves ⊢
    have advance := leaves.resolve_right Bool.false_ne_true
    simp only [Interlock.stallCauses, List.mem_cons, Prod.mk.injEq, List.not_mem_nil,
      or_false] at cause
    rcases cause with ⟨rfl, rfl⟩ | ⟨rfl, rfl⟩ | ⟨rfl, rfl⟩ | ⟨rfl, rfl⟩ | ⟨rfl, rfl⟩ |
      ⟨rfl, rfl⟩ <;> first | decide | cases advance
  | branch _ _ _ _ interlock => rw [interlock]; exact ⟨rfl, nofun, rfl⟩
  | exception interlock => rw [interlock]; exact ⟨rfl, nofun, rfl⟩
  | @interrupt stall _ interlock =>
    rw [interlock] at leaves
    cases stall <;> rcases leaves with advance | exception <;> contradiction

end Reports

/-! ## Cycles of the pipeline -/

section Cycles

variable {ι δ : Type} [MemoryPort ι] [MemoryPort δ]
  {p : Pipeline ι δ (RecordedUnit ReferenceUnit)} {inputs : Inputs}

/-- What a unit has in flight is the operation of the instruction in the execute stage, for that
unit. -/
def Pipeline.Owns (p : Pipeline ι δ (RecordedUnit ReferenceUnit)) : Prop :=
  ∀ slot, ∀ f ∈ (p.bank.get slot).unit.inFlight, p.Offering (slot, f.offload)

/-- In a cycle without an offer a trap ends what is in flight, and nothing else does. -/
theorem Pipeline.inFlight_of_silent
    (bank : (p.tick inputs).next.bank =
      (p.tick inputs).report.notify (p.bank.cycle none none).2) (slot : Slot) :
    ((p.tick inputs).next.bank.get slot).unit.inFlight =
      if (p.tick inputs).report.trap.isSome then none else (p.bank.get slot).unit.inFlight := by
  rw [bank, Report.inFlight_notify, Bank.unit_cycle]
  change (if _ then none else (Coprocessor.respond (p.bank.get slot).unit none).2.inFlight) = _
  rw [ReferenceUnit.inFlight_respond_none]

/-- A cycle keeps what is in flight with its instruction, and nothing stays in flight when the
execute stage is not held. -/
theorem Pipeline.Owns.tick (owns : p.Owns) :
    (p.tick inputs).next.Owns ∧
      ((p.tick inputs).report.interlock.fate .execute ≠ .hold →
        ∀ slot, ((p.tick inputs).next.bank.get slot).unit.inFlight = none) := by
  cases p.tick_unitTurn inputs with
  | silent bank kept held =>
    have inFlight := inFlight_of_silent bank
    cases trap : (p.tick inputs).report.trap with
    | some trap' =>
      have idle (slot : Slot) : ((p.tick inputs).next.bank.get slot).unit.inFlight = none := by
        rw [inFlight, trap]
        rfl
      refine ⟨fun slot f member => ?_, fun _ => idle⟩
      rw [idle slot] at member
      cases member
    | none =>
      have same (slot : Slot) : ((p.tick inputs).next.bank.get slot).unit.inFlight =
          (p.bank.get slot).unit.inFlight := by
        rw [inFlight, trap]
        rfl
      refine ⟨fun slot f member => ?_, fun leaves slot => ?_⟩
      · obtain ⟨e, entry, owned, request⟩ := owns slot f (same slot ▸ member)
        exact ⟨e, kept trap e entry (by rw [owned]; rfl), owned, request⟩
      · rw [same, Option.eq_none_iff_forall_ne_some]
        intro f started
        obtain ⟨e, entry, owned, -⟩ := owns slot f started
        exact leaves (held (interrupt_of_trap trap) e entry (by rw [owned]; rfl))
  | @offered e slot entry owned bank kept waits leaves =>
    -- No other unit has anything in flight, as the instruction is for this one.
    have only (other : Slot) (f : InFlight)
        (member : f ∈ ((p.tick inputs).next.bank.get other).unit.inFlight) :
        other = slot ∧ f.offload = e.request ∧
          (p.bank.cycle (some slot) (some e.request)).1 = {} := by
      rw [bank, Report.inFlight_notify, Bank.unit_cycle] at member
      cases trap : (p.tick inputs).report.trap with
      | some trap' => simp [trap] at member
      | none =>
        simp only [trap, Option.isSome_none, Bool.false_eq_true, if_false] at member
        by_cases same : other = slot
        · subst same
          rw [Bank.offered_self] at member
          obtain ⟨request, answer⟩ := ReferenceUnit.inFlight_respond_some member
          exact ⟨rfl, request, (p.bank.cycle_answer other (some e.request)).trans answer⟩
        · rw [Bank.offered_of_ne same, ReferenceUnit.inFlight_respond_none] at member
          obtain ⟨e', entry', owned', -⟩ := owns other f member
          cases entry.symm.trans entry'
          exact absurd (Option.some.inj (owned'.symm.trans owned)) same
    refine ⟨fun other f member => ?_, fun gone other => ?_⟩
    · obtain ⟨rfl, request, answer⟩ := only other f member
      exact ⟨e, kept (by rw [answer]) (by rw [answer]), owned, request.symm⟩
    · rw [Option.eq_none_iff_forall_ne_some]
      intro f started
      obtain ⟨-, -, answer⟩ := only other f started
      rw [waits (by rw [answer]) (by rw [answer])] at gone
      exact gone rfl

/-- The units other than the system unit have the latencies of the configuration. -/
def Pipeline.Clocks (p : Pipeline ι δ (RecordedUnit ReferenceUnit)) (latency : PerSlot Nat) :
    Prop :=
  ∀ slot, slot ≠ .cp0 → (p.bank.get slot).unit.Timed (latency.get slot)

theorem Pipeline.Clocks.tick {latency : PerSlot Nat} (clocks : p.Clocks latency) :
    (p.tick inputs).next.Clocks latency := by
  have notified {select : Option Slot} {offload : Option Offload}
      (bank : (p.tick inputs).next.bank =
        (p.tick inputs).report.notify (p.bank.cycle select offload).2) :
      (p.tick inputs).next.Clocks latency := by
    intro slot other
    rw [bank]
    refine Report.timed_notify _ ?_
    rw [Bank.unit_cycle]
    cases Bank.offered select offload slot with
    | none => exact (clocks slot other).respond_none
    | some req => exact ((clocks slot other).respond_some req).1
  cases p.tick_unitTurn inputs with
  | silent bank => exact notified bank
  | offered _ _ bank => exact notified bank

/-- The offers to the units, each with the report of its cycle. -/
def offerChannel : Channel ι δ (RecordedUnit ReferenceUnit) (Offer × Report) (Slot × Offload) where
  traffic p inputs := (p.offers inputs).map fun o => (o, (p.tick inputs).report)
  request o := (o.1.slot, o.1.offload)
  waits o := o.1.response.ready = false ∧ o.1.response.exception = false
  calm r := r.trap = none

/-- A cycle that holds the execute stage offers its instruction at most once more, and that offer is
counted and reported as a wait. -/
theorem Pipeline.offered_of_held {latency : PerSlot Nat} {e : IdEx} {slot : Slot}
    (owned : e.inst.slot? = some slot) (other : slot ≠ .cp0)
    (stands : p.core.latches.idEx = some e ∧ p.Clocks latency)
    (held : (p.tick inputs).report.interlock.fate .execute = .hold) :
    ((p.tick inputs).next.core.latches.idEx = some e ∧ (p.tick inputs).next.Clocks latency) ∧
      (∀ o ∈ offerChannel.traffic p inputs, (o.1.slot = slot ∧ o.1.offload = e.request) ∧
        o.2.interlock.stalls.contains .coprocessorNotReady = true) ∧
      ((p.tick inputs).next.bank.get slot).unit.credit e.request =
        (p.bank.get slot).unit.credit e.request + (offerChannel.traffic p inputs).length := by
  obtain ⟨entry, clocks⟩ := stands
  have trap := trap_of_held held
  unfold offerChannel
  cases p.tick_unitTurn inputs with
  | silent bank kept =>
    have idle := inFlight_of_silent bank slot
    simp only [trap, Option.isSome_none, Bool.false_eq_true, if_false] at idle
    simp only [offers_of_none bank, List.map_nil]
    refine ⟨⟨kept trap e entry (by rw [owned]; rfl), clocks.tick⟩, by simp, ?_⟩
    unfold ReferenceUnit.credit
    rw [idle]
    rfl
  | @offered e' slot' entry' owned' bank kept waits leaves =>
    cases entry.symm.trans entry'
    cases owned.symm.trans owned'
    have unready : (p.bank.cycle (some slot) (some e.request)).1.ready = false := by
      rw [← Bool.not_eq_true]
      exact fun ready => leaves (.inr ready) held
    have calm : (p.bank.cycle (some slot) (some e.request)).1.exception = false := by
      rw [← Bool.not_eq_true]
      exact fun raised => leaves (.inl raised) held
    have answer : (p.bank.cycle (some slot) (some e.request)).1 =
        (Coprocessor.respond (p.bank.get slot).unit (some e.request)).1 :=
      p.bank.cycle_answer slot (some e.request)
    have counted : ((p.tick inputs).next.bank.get slot).unit.credit e.request =
        (Coprocessor.respond (p.bank.get slot).unit (some e.request)).2.credit e.request := by
      unfold ReferenceUnit.credit
      rw [bank, Report.inFlight_notify, trap, Bank.unit_cycle, Bank.offered_self]
      rfl
    simp only [offers_of_some bank]
    refine ⟨⟨kept calm unready, clocks.tick⟩, fun o member => ?_, ?_⟩
    · cases List.mem_singleton.mp member
      exact ⟨⟨rfl, rfl⟩, by rw [waits calm unready]; rfl⟩
    · rcases ((clocks slot other).respond_some e.request).2 with ⟨-, credit⟩ | ⟨ready, -⟩
      · exact counted.trans credit
      · rw [answer] at unready
        exact absurd (ready.symm.trans unready) nofun

/-- The cycle in which an instruction leaves the execute stage offers it for the last time. -/
theorem Pipeline.offered_of_leaving {latency : PerSlot Nat} {e : IdEx} {slot : Slot}
    (owned : e.inst.slot? = some slot) (other : slot ≠ .cp0) (clocks : p.Clocks latency)
    (entry : p.core.latches.idEx = some e)
    (leaves : (p.tick inputs).report.interlock.fate .execute = .advance ∨
      (p.tick inputs).report.interlock.flushes.exception = true) :
    (∀ o ∈ offerChannel.traffic p inputs, (o.1.slot = slot ∧ o.1.offload = e.request)) ∧
      (offerChannel.traffic p inputs).map
        (fun o => o.2.interlock.stalls.contains .coprocessorNotReady) = [false] ∧
      (p.bank.get slot).unit.credit e.request + 1 = latency.get slot := by
  obtain ⟨uninterrupted, gone, ready⟩ := report_of_leaving leaves
  unfold offerChannel
  cases p.tick_unitTurn inputs with
  | silent bank kept held =>
    exact absurd (held uninterrupted e entry (by rw [owned]; rfl)) gone
  | @offered e' slot' entry' owned' bank kept waits =>
    cases entry.symm.trans entry'
    cases owned.symm.trans owned'
    have answer : (p.bank.cycle (some slot) (some e.request)).1 =
        (Coprocessor.respond (p.bank.get slot).unit (some e.request)).1 :=
      p.bank.cycle_answer slot (some e.request)
    simp only [offers_of_some bank]
    refine ⟨fun o member => ?_, congrArg ([·]) ready, ?_⟩
    · cases List.mem_singleton.mp member
      exact ⟨rfl, rfl⟩
    · rcases ((clocks slot other).respond_some e.request).2 with ⟨none, -⟩ | ⟨-, credit⟩
      · rw [← answer] at none
        rw [waits (by rw [none]) (by rw [none])] at gone
        exact absurd rfl gone
      · exact credit

end Cycles

/-! ## Whole stays -/

namespace Pipeline

variable {ι δ : Type} [MemoryPort ι] [MemoryPort δ]

/-- What is offered from the cycle in which a unit starts afresh until the instruction leaves: the
whole latency, of which the last cycle alone does not wait. -/
theorem offered_until_leaving {p : Pipeline ι δ (RecordedUnit ReferenceUnit)}
    {latency : PerSlot Nat} {e : IdEx} {slot : Slot} (owned : e.inst.slot? = some slot)
    (other : slot ≠ .cp0) (clocks : p.Clocks latency) (entry : p.core.latches.idEx = some e)
    (fresh : (p.bank.get slot).unit.credit e.request = 0) {during : Schedule} {last : Inputs}
    (held : ∀ r ∈ p.reports during, r.interlock.fate .execute = .hold)
    (leaves : ((p.run during).tick last).report.interlock.fate .execute = .advance ∨
      ((p.run during).tick last).report.interlock.flushes.exception = true) :
    let offers := offerChannel.along p (during ++ [last])
    offers.length = latency.get slot ∧
      (∀ o ∈ offers, o.1.slot = slot ∧ o.1.offload = e.request) ∧
      (offers.map fun o => o.2.interlock.stalls.contains .coprocessorNotReady) =
        List.replicate (latency.get slot - 1) true ++ [false] := by
  obtain ⟨⟨entry', clocks'⟩, waited, total⟩ := offerChannel.along_held
    (fun p => p.core.latches.idEx = some e ∧ p.Clocks latency)
    (fun o => (o.1.slot = slot ∧ o.1.offload = e.request) ∧
      o.2.interlock.stalls.contains .coprocessorNotReady = true)
    (fun p => (p.bank.get slot).unit.credit e.request)
    (fun _ _ stands held => offered_of_held owned other stands held) ⟨entry, clocks⟩ during held
  obtain ⟨own, reported, credit⟩ := offered_of_leaving owned other clocks' entry' leaves
  have waits : (offerChannel.along p during).length = latency.get slot - 1 := by
    omega
  have once : (offerChannel.traffic (p.run during) last).length = 1 := by
    simpa using congrArg List.length reported
  rw [Channel.along_append, Channel.along_singleton]
  refine ⟨?_, fun o member => ?_, ?_⟩
  · rw [List.length_append, waits, once]
    omega
  · rcases List.mem_append.mp member with earlier | final
    · exact (waited o earlier).1
    · exact own o final
  · rw [List.map_append, reported, ← waits]
    refine congrArg (· ++ [false]) (List.eq_replicate_iff.mpr ⟨List.length_map .., ?_⟩)
    intro b member
    obtain ⟨o, earlier, rfl⟩ := List.mem_map.mp member
    exact (waited o earlier).2

/-- The latency of a coprocessor is exact. Whatever the ports and the environment do, a unit has an
operation in flight only while the instruction that it belongs to is in the execute stage; and an
instruction for a coprocessor other than the system unit, when it leaves the execute stage for the
memory stage or with an exception, was offered in exactly `latency` cycles of its stay there, all
but the last of which report that the coprocessor is not ready. -/
theorem unit_latency (config : Configuration) (regs : RegisterFile) (imem : ι) (dmem : δ)
    (latency : PerSlot Nat) (operation : Operation) (positive : ∀ slot, 1 ≤ latency.get slot)
    (before : Schedule) :
    let p := (create config imem dmem
      ((Bank.reference latency operation).map fun unit =>
        ({ unit } : RecordedUnit ReferenceUnit))).seeded regs
    let now := p.run before
    (∀ slot, ∀ f ∈ (now.bank.get slot).unit.inFlight, ∃ e, now.core.latches.idEx = some e ∧
        e.inst.slot? = some slot ∧ e.request = f.offload) ∧
      (∀ inputs, (now.offers inputs).length ≤ 1) ∧
      ∀ (during : Schedule) (last : Inputs) (e : IdEx) (slot : Slot),
        let final := (now.run during).tick last
        let offers := offerChannel.along now (during ++ [last])
        now.core.latches.idEx = some e → e.inst.slot? = some slot → slot ≠ .cp0 →
        p.Stays .execute before during →
        (final.report.interlock.fate .execute = .advance ∨
          final.report.interlock.flushes.exception = true) →
          offers.length = latency.get slot ∧
          (∀ o ∈ offers, o.1.slot = slot ∧ o.1.offload = e.request) ∧
          (offers.map fun o => o.2.interlock.stalls.contains .coprocessorNotReady) =
            List.replicate (latency.get slot - 1) true ++ [false] := by
  intro p now
  have idle (slot : Slot) : (p.bank.get slot).unit.inFlight = none := by
    cases slot <;> rfl
  have owns : ∀ earlier, (p.run earlier).Owns := by
    intro earlier
    refine run_invariant Owns (fun slot f member => ?_) earlier fun _ _ _ h => h.tick.1
    rw [idle] at member
    cases member
  have clocks : now.Clocks latency := by
    refine run_invariant (Clocks · latency) (fun slot other => ?_) before fun _ _ _ h => h.tick
    have least := positive slot
    have fresh : ∀ req, (p.bank.get slot).unit.credit req < latency.get slot := by
      intro req
      unfold ReferenceUnit.credit
      rw [idle]
      exact least
    refine ⟨?_, fresh⟩
    cases slot with
    | cp0 => contradiction
    | _ => exact ⟨_, rfl, Nat.max_eq_left least⟩
  refine ⟨owns before, fun inputs => (now.clocked inputs).offers, ?_⟩
  intro during last e slot final offers entry owned other stay leaves
  have fresh : (now.bank.get slot).unit.credit e.request = 0 := by
    have nothing : (now.bank.get slot).unit.inFlight = none :=
      stay.entered (fun p => (p.bank.get slot).unit.inFlight = none) (idle slot)
        fun earlier inputs _ exits => (owns earlier).tick.2 exits slot
    unfold ReferenceUnit.credit
    rw [nothing]
  exact offered_until_leaving owned other clocks entry fresh stay.held leaves

/-- A memory of one word for CP2, which every address reaches, and units with a latency of three
cycles. -/
def accelerating : Pipeline Memory Memory (RecordedUnit ReferenceUnit) :=
  let memory := (Memory.create 4 1).write 0 0x0000000B 0xF
  (create {} memory memory
    ((Bank.reference (.const 3)).map fun unit => ({ unit } : RecordedUnit ReferenceUnit))).seeded
      .zero

/-- The first operation is offered for three cycles, though the environment stalls in between. -/
theorem unit_latency_accelerating :
    accelerating.Stays .execute (.quiet 2) [{}, { externalStall := true }, {}] ∧
      (offerChannel.along (accelerating.run (.quiet 2))
        [{}, { externalStall := true }, {}, {}]).length = 3 := by
  have stay : accelerating.Stays .execute (.quiet 2) [{}, { externalStall := true }, {}] :=
    .of_last (.quiet 1) {} rfl (by decide +kernel) (by decide +kernel)
  obtain ⟨e, entry⟩ := Option.isSome_iff_exists.mp
    (by decide +kernel : (accelerating.run (.quiet 2)).core.latches.idEx.isSome = true)
  have owned : ∀ e ∈ (accelerating.run (.quiet 2)).core.latches.idEx,
      e.inst.slot? = some .cp2 := by
    decide +kernel
  have positive (slot : Slot) : 1 ≤ (PerSlot.const 3).get slot := by
    cases slot <;> decide
  have leaves : (((accelerating.run (.quiet 2)).run [{}, { externalStall := true }, {}]).tick
      {}).report.interlock.fate .execute = .advance := by
    decide +kernel
  have latency := unit_latency {} .zero accelerating.imem accelerating.dmem (.const 3)
    singlePrecision positive (.quiet 2)
  have exactly := latency.2.2 [{}, { externalStall := true }, {}] {} e .cp2 entry
    (owned e entry) (by decide) stay (.inl leaves)
  exact ⟨stay, exactly.1⟩

end Pipeline

end FiveStage
