import FiveStage.Proofs.Coprocessor.Stimulus
import FiveStage.Proofs.Memory.Accesses
import FiveStage.Proofs.Pipeline.Causes
import FiveStage.Proofs.Pipeline.Stay

/-!
# The starvation watch

The dispatcher counts how long an operation waits for its unit, and warns when the count reaches a
threshold. It does not see which instruction it counts for, only what the execute stage shows it in
one cycle; that the count is never carried over to another instruction is a fact about the pipeline.
A cycle lengthens the wait, keeps it while an older stage holds the instruction, or ends it together
with the stay (`WatchTurn`), so along a stay the wait is the number of cycles in which the unit was
not ready, and it passes the threshold at most once. The units must be ready whenever they raise
their exception line: the watch does not look at that line.
-/

namespace FiveStage

/-! ## Units that do not raise an exception while they are busy -/

namespace Coprocessor

variable {σ : Type} [Coprocessor σ] {u : σ}

/-- Whatever has happened to the unit, it is ready when it raises its exception line. -/
def Settles (u : σ) : Prop :=
  ∀ history offload, (respond (after u history) offload).1.exception = true →
    (respond (after u history) offload).1.ready = true

theorem Settles.step (h : Settles u) (stimulus : Stimulus) : Settles (step u stimulus) :=
  fun history => h (stimulus :: history)

theorem Settles.ready (h : Settles u) {offload : Option Offload}
    (raised : (respond u offload).1.exception = true) : (respond u offload).1.ready = true :=
  h [] offload raised

end Coprocessor

/-- Every unit of a bank is ready when it raises its exception line. -/
def Bank.Settles {σ : Type} [Coprocessor σ] (bank : Bank σ) : Prop :=
  ∀ slot, Coprocessor.Settles (bank.get slot)

namespace Bank.Settles

variable {σ : Type} [Coprocessor σ] {bank : Bank σ} (h : bank.Settles)
include h

theorem cycle (select : Option Slot) (offload : Option Offload) :
    Bank.Settles (bank.cycle select offload).2 := by
  intro slot
  rw [bank.get_cycle]
  exact (h slot).step (.clocked _)

theorem retired : bank.retired.Settles := by
  intro slot
  rw [Bank.retired, PerSlot.get_map]
  exact (h slot).step .retired

theorem trapTaken (trap : Trap) : (bank.trapTaken trap).Settles := by
  intro slot
  rw [Bank.trapTaken, PerSlot.get_map]
  exact (h slot).step (.trapTaken trap)

theorem notify (r : Report) : (r.notify bank).Settles := by
  unfold Report.notify
  have told : (if r.retired.isSome then bank.retired else bank).Settles := by
    split
    · exact h.retired
    · exact h
  cases r.trap with
  | none => exact told
  | some trap => exact told.trapTaken trap

theorem ready {slot : Slot} {offload : Offload}
    (raised : (bank.cycle (some slot) (some offload)).1.exception = true) :
    (bank.cycle (some slot) (some offload)).1.ready = true := by
  rw [Bank.cycle_answer] at raised ⊢
  exact (h slot).ready raised

end Bank.Settles

section Sum

variable {σ τ : Type} [Coprocessor σ] [Coprocessor τ]

theorem Coprocessor.after_inl (u : σ) (history : List Stimulus) :
    after (.inl u : σ ⊕ τ) history = .inl (after u history) := by
  induction history generalizing u with
  | nil => rfl
  | cons first rest ih => cases first <;> exact ih _

theorem Coprocessor.after_inr (u : τ) (history : List Stimulus) :
    after (.inr u : σ ⊕ τ) history = .inr (after u history) := by
  induction history generalizing u with
  | nil => rfl
  | cons first rest ih => cases first <;> exact ih _

theorem Coprocessor.Settles.inl {u : σ} (h : Settles u) : Settles (.inl u : σ ⊕ τ) := by
  intro history offload raised
  rw [after_inl] at raised ⊢
  exact h history offload raised

theorem Coprocessor.Settles.inr {u : τ} (h : Settles u) : Settles (.inr u : σ ⊕ τ) := by
  intro history offload raised
  rw [after_inr] at raised ⊢
  exact h history offload raised

end Sum

theorem SystemUnit.settles (u : SystemUnit) : Coprocessor.Settles u := by
  intro history offload _
  generalize Coprocessor.after u history = now
  cases offload with
  | none => rfl
  | some req => exact SystemUnit.execute_ready _ req

theorem FixedLatencyUnit.settles (u : FixedLatencyUnit) : Coprocessor.Settles u := by
  intro history offload raised
  generalize Coprocessor.after u history = now at raised ⊢
  cases offload with
  | none => cases raised
  | some req =>
    change (now.respond (some req)).1.exception = true at raised
    change (now.respond (some req)).1.ready = true
    rcases now.respond_cases req with silent | complete
    · rw [silent] at raised
      cases raised
    · rw [complete]
      exact completion_ready ..

/-- Every bank of reference units will do. -/
theorem Bank.settles_reference (bank : Bank ReferenceUnit) : bank.Settles := by
  intro slot
  cases bank.get slot with
  | inl u => exact u.settles.inl
  | inr u => exact u.settles.inr

/-! ## What a cycle logs about starvation -/

def Event.isStarvation : Event → Bool
  | starved .. => true
  | _ => false

/-- There is an instruction of a coprocessor in the execute stage. -/
def Latches.hasOffload (l : Latches) : Bool :=
  l.idEx.any (·.inst.slot?.isSome)

section Events

variable {ι δ σ : Type}

theorem MemoryOutcome.filter_events (m : MemoryOutcome) :
    m.events.filter (·.isStarvation) = [] := by
  cases m <;> rfl

theorem ExecuteOutcome.filter_events (x : ExecuteOutcome) :
    x.events.filter (·.isStarvation) = [] := by
  cases x <;> rfl

theorem DecodeOutcome.filter_events (d : DecodeOutcome) :
    d.events.filter (·.isStarvation) = [] := by
  have forward (pc : Word) (register : Nat) (operand : Forwarded) :
      (forwardEvents pc register operand).filter (·.isStarvation) = [] := by
    unfold forwardEvents
    split <;> rfl
  cases d with
  | issued e hazards operands redirect =>
    unfold events
    rw [List.filter_append, List.filter_append, forward, forward]
    cases redirect <;> rfl
  | _ => rfl

theorem FetchOutcome.filter_events (f : FetchOutcome) :
    f.events.filter (·.isStarvation) = [] := by
  cases f <;> rfl

/-- Only the dispatcher warns. -/
theorem Cycle.filter_events (c : Cycle ι δ σ) (p : Core) :
    (c.stageEvents p ++ c.edgeEvents p).filter (·.isStarvation) =
      c.dispatch.warning.toList.filter (·.isStarvation) := by
  have interrupted : (c.interrupt.toList.map fun trap =>
      Event.interruptTaken trap p.settings.interruptVector).filter (·.isStarvation) = [] := by
    cases c.interrupt <;> rfl
  have committed : (c.retired.toList.filterMap fun e =>
      if p.trace then some (Event.retired e.pc e.inst e.rd e.value) else none).filter
        (·.isStarvation) = [] := by
    cases c.retired <;> cases p.trace <;> rfl
  have suppressed : (c.edgeEvents p).filter (·.isStarvation) = [] := by
    unfold edgeEvents
    split <;> rfl
  unfold stageEvents
  simp only [List.filter_append, interrupted, committed, suppressed, c.memory.filter_events,
    c.execute.filter_events, c.decode.filter_events, c.fetch.filter_events, List.nil_append,
    List.append_nil]

end Events

namespace Pipeline

variable {ι δ σ : Type} [MemoryPort ι] [MemoryPort δ] [Coprocessor σ]

/-- What the units log in a cycle. -/
def unitEvents (p : Pipeline ι δ σ) (inputs : Inputs) : List Event :=
  (p.core.evaluate p.imem p.dmem p.bank inputs).bankEvents

/-- The warnings of starvation in a cycle, but for what the units log. -/
def warnings (p : Pipeline ι δ σ) (inputs : Inputs) : List Event :=
  let c := p.core.evaluate p.imem p.dmem p.bank inputs
  (c.stageEvents p.core ++ c.edgeEvents p.core).filter (·.isStarvation)

/-- The warnings of starvation along a schedule, in order. -/
def warningsAlong (p : Pipeline ι δ σ) : Schedule → List Event
  | [] => []
  | inputs :: rest => p.warnings inputs ++ (p.tick inputs).next.warningsAlong rest

theorem filter_events (p : Pipeline ι δ σ) (inputs : Inputs) :
    (p.tick inputs).events.filter (·.isStarvation) =
      p.warnings inputs ++ (p.unitEvents inputs).filter (·.isStarvation) :=
  List.filter_append ..

end Pipeline

/-! ## One cycle of the watch -/

section Turn

variable {ι δ σ : Type} [Coprocessor σ]

/-- An instruction that an older stage holds, and nothing empties, stays. -/
theorem Interlock.fate_of_heldByOlder {c : Interlock} {stage : Stage}
    (older : c.heldByOlder stage = true) (live : c.flushed stage = false) :
    c.fate stage = .hold := by
  obtain ⟨point, found, young⟩ := (Option.any_eq_true _ _).mp older
  have held : c.stallPoint.any (stage ≤ ·) = true := by
    rw [found]
    exact decide_eq_true (Nat.le_of_lt (of_decide_eq_true young))
  unfold fate
  rw [live, held]
  rfl

/-- What the cycle of `p` with the answer `t` and the warnings `warnings` does to the wait of the
instruction in the execute stage. -/
inductive WatchTurn (p : Pipeline ι δ σ) (t : Tick ι δ σ) (warnings : List Event) : Prop where
  /-- Its unit is not ready, and it waits one cycle more. -/
  | waits {e : IdEx} {slot : Slot} (entry : p.core.latches.idEx = some e)
      (owned : e.inst.slot? = some slot)
      (interlock : t.report.interlock = ({} : Interlock).stall .coprocessorNotReady .execute)
      (kept : t.next.core.latches.idEx = p.core.latches.idEx)
      (wait : t.next.coprocessorWait = p.coprocessorWait + 1)
      (warns : warnings =
        if p.core.dispatcher.warnAfter = p.coprocessorWait + 1 then
          [.starved slot ((p.bank.cycle (some slot) (some e.request)).2.name slot)
            (p.coprocessorWait + 1)]
        else [])
  /-- An older stage holds it, if there is one. -/
  | held (fate : t.report.interlock.fate .execute = .hold)
      (ready : t.report.interlock.stalls.contains .coprocessorNotReady = false)
      (kept : t.next.core.latches.idEx = p.core.latches.idEx)
      (wait : t.next.coprocessorWait = if p.core.latches.hasOffload then p.coprocessorWait else 0)
      (calm : warnings = [])
  /-- It leaves the stage, if there is one. -/
  | leaves (fate : t.report.interlock.fate .execute ≠ .hold)
      (ready : t.report.interlock.stalls.contains .coprocessorNotReady = false)
      (wait : t.next.coprocessorWait = 0) (calm : warnings = [])

/-- What the dispatcher makes of an execute stage that works. -/
theorem Core.executeWork_watch (p : Core) {bank : Bank σ} (units : bank.Settles) :
    (∃ e slot, p.latches.idEx = some e ∧ e.inst.slot? = some slot ∧
        (p.executeWork bank).1 = .waiting ∧
        (p.executeWork bank).2.dispatcher.waited = p.dispatcher.waited + 1 ∧
        (p.executeWork bank).2.warning =
          if p.dispatcher.warnAfter = p.dispatcher.waited + 1 then
            some (.starved slot ((bank.cycle (some slot) (some e.request)).2.name slot)
              (p.dispatcher.waited + 1))
          else none) ∨
      ((p.executeWork bank).1 ≠ .waiting ∧ (p.executeWork bank).2.dispatcher.waited = 0 ∧
        (p.executeWork bank).2.warning = none) := by
  rw [p.dispatch_executeWork bank]
  cases entry : p.latches.idEx with
  | none =>
    refine .inr ⟨?_, p.dispatcher.watch_of_idle rfl bank⟩
    rw [(executeWork_of_none entry bank).1]
    exact nofun
  | some e =>
    cases owned : e.inst.slot? with
    | none =>
      rw [IdEx.dispatchInputs_of_integer owned]
      refine .inr ⟨?_, p.dispatcher.watch_of_idle rfl bank⟩
      rw [(executeWork_of_integer entry owned bank).1]
      exact nofun
    | some slot =>
      rw [(executeWork_of_slot entry owned bank).1]
      unfold IdEx.answered
      cases ready : (bank.cycle (some slot) (some e.request)).1.ready with
      | true =>
        refine .inr ⟨?_, p.dispatcher.watch_of_ready owned ready⟩
        split <;> exact nofun
      | false =>
        have calm : (bank.cycle (some slot) (some e.request)).1.exception = false := by
          rw [← Bool.not_eq_true]
          exact fun raised => absurd (ready.symm.trans (units.ready raised)) nofun
        rw [calm]
        exact .inl ⟨e, slot, rfl, owned, rfl, p.dispatcher.watch_of_unready owned ready⟩

namespace WatchTurn

variable {p : Pipeline ι δ σ} {t : Tick ι δ σ} {warnings : List Event} {asked : Interlock}

/-- A cycle in which the execute stage is held. -/
theorem of_held (interlock : t.report.interlock = asked) (fate : asked.fate .execute = .hold)
    (ready : asked.stalls.contains .coprocessorNotReady = false)
    (kept : t.next.core.latches.idEx = p.core.latches.idEx)
    (wait : t.next.coprocessorWait =
      (p.core.dispatcher.cycle (dispatchInputs p.core.latches.idEx true) p.bank).dispatcher.waited)
    (warns : warnings =
      (p.core.dispatcher.cycle (dispatchInputs p.core.latches.idEx true)
        p.bank).warning.toList.filter (·.isStarvation)) :
    WatchTurn p t warnings := by
  rw [p.core.dispatcher.waited_cycle_held] at wait
  rw [(p.core.dispatcher.watch_of_idle (detection_held _) p.bank).2] at warns
  exact .held (interlock ▸ fate) (interlock ▸ ready) kept wait warns

/-- A cycle in which the execute stage is done with its instruction. -/
theorem of_done (units : p.bank.Settles) (done : (p.core.executeWork p.bank).1 ≠ .waiting)
    (interlock : t.report.interlock = asked) (fate : asked.fate .execute ≠ .hold)
    (ready : asked.stalls.contains .coprocessorNotReady = false)
    (wait : t.next.coprocessorWait = (p.core.executeWork p.bank).2.dispatcher.waited)
    (warns : warnings =
      (p.core.executeWork p.bank).2.warning.toList.filter (·.isStarvation)) :
    WatchTurn p t warnings := by
  rcases p.core.executeWork_watch units with ⟨-, -, -, -, waiting, -⟩ | ⟨-, waited, silent⟩
  · exact absurd waiting done
  · rw [silent] at warns
    exact .leaves (interlock ▸ fate) (interlock ▸ ready) (wait.trans waited) warns

end WatchTurn

/-- What a cycle does to the wait, if the units are ready when they raise their exception lines. -/
theorem Pipeline.tick_watchTurn [MemoryPort ι] [MemoryPort δ] {p : Pipeline ι δ σ}
    (units : p.bank.Settles) (inputs : Inputs) :
    WatchTurn p (p.tick inputs) (p.warnings inputs) := by
  have flow := evaluate_flow p.core p.imem p.dmem p.bank inputs
  unfold warnings
  dsimp only
  rw [Cycle.filter_events]
  change WatchTurn p ((p.core.evaluate p.imem p.dmem p.bank inputs).edge p.core) _
  generalize p.core.evaluate p.imem p.dmem p.bank inputs = c at flow ⊢
  cases flow with
  | interrupted stall =>
    exact .leaves (by cases stall <;> exact nofun) (by cases stall <;> rfl) rfl rfl
  | held =>
    have leaves := p.core.leavesAt_held p.imem p.dmem p.bank
    have kept := congrArg Latches.idEx leaves.latches_eq
    exact .of_held rfl rfl rfl kept rfl rfl
  | dataWaiting wait =>
    have interlock := p.core.interlock_dataWaiting wait p.imem p.bank
    have leaves := p.core.leavesAt_dataWaiting wait p.imem p.bank
    have kept := congrArg Latches.idEx leaves.latches_eq
    exact .of_held interlock rfl rfl kept rfl rfl
  | coprocessorWaiting memory wait =>
    have interlock := p.core.interlock_coprocessorWaiting memory wait p.imem
    have leaves := p.core.leavesAt_coprocessorWaiting memory wait p.imem
    have kept := congrArg Latches.idEx leaves.latches_eq
    rcases p.core.executeWork_watch units with
      ⟨e, slot, entry, owned, -, waited, warns⟩ | ⟨done, -⟩
    · refine .waits entry owned interlock kept waited ?_
      change (p.core.executeWork p.bank).2.warning.toList.filter (·.isStarvation) =
        if p.core.dispatcher.warnAfter = p.core.dispatcher.waited + 1 then _ else []
      rw [warns]
      split <;> rfl
    · exact absurd wait done
  | trapped memory raised =>
    have interlock := p.core.interlock_trapped memory raised p.imem
    exact .of_done units (by rw [raised]; exact nofun) interlock nofun rfl rfl rfl
  | @operandWaiting reason memory execute wait =>
    have interlock := p.core.interlock_operandWaiting memory execute wait p.imem
    refine .of_done units (ExecuteOutcome.ne_waiting execute) interlock nofun ?_ rfl rfl
    have cause := DecodeOutcome.cause_of_wait wait
    cases reason <;> first | rfl | exact absurd cause (by decide)
  | redirected memory execute leave =>
    have interlock := p.core.interlock_redirected memory execute leave p.imem
    exact .of_done units (ExecuteOutcome.ne_waiting execute) interlock nofun rfl rfl rfl
  | straight memory execute decode =>
    have interlock := p.core.interlock_straight memory execute decode (p.core.fetchWork p.imem)
    refine .of_done units (ExecuteOutcome.ne_waiting execute) interlock ?_ ?_ rfl rfl
    · cases (p.core.fetchWork p.imem).1 <;> exact nofun
    · cases (p.core.fetchWork p.imem).1 <;> rfl

end Turn

/-! ## The watch along a run -/

section Run

variable {ι δ σ : Type} [MemoryPort ι] [MemoryPort δ] [Coprocessor σ]

namespace Pipeline

/-- The state of the watch with a threshold: only an operation of a coprocessor waits. -/
structure Watched (p : Pipeline ι δ σ) (limit : Nat) : Prop where
  limit : p.core.dispatcher.warnAfter = limit
  units : p.bank.Settles
  waits : p.core.latches.hasOffload = false → p.coprocessorWait = 0

namespace Watched

variable {p : Pipeline ι δ σ} {limit : Nat} (h : p.Watched limit)
include h

theorem tick (inputs : Inputs) : (p.tick inputs).next.Watched limit := by
  refine ⟨h.limit, ?_, ?_⟩
  · cases p.tick_unitTurn inputs with
    | silent bank =>
      rw [bank]
      exact (h.units.cycle none none).notify _
    | offered _ _ bank =>
      rw [bank]
      exact (h.units.cycle _ _).notify _
  · intro idle
    cases tick_watchTurn h.units inputs with
    | waits entry owned _ kept =>
      unfold Latches.hasOffload at idle
      rw [kept, entry] at idle
      simp [owned] at idle
    | held _ _ kept wait =>
      unfold Latches.hasOffload at idle wait
      rw [kept] at idle
      rw [wait, idle]
      rfl
    | leaves _ _ wait => exact wait

theorem run (schedule : Schedule) : (p.run schedule).Watched limit :=
  run_invariant (Watched · limit) h schedule fun _ inputs _ now => now.tick inputs

/-- A cycle in which an older stage holds the instruction neither adds to the wait nor ends it. -/
theorem wait_of_heldByOlder {inputs : Inputs}
    (older : (p.tick inputs).report.interlock.heldByOlder .execute = true)
    (live : (p.tick inputs).report.interlock.flushed .execute = false) :
    (p.tick inputs).next.coprocessorWait = p.coprocessorWait := by
  cases tick_watchTurn h.units inputs with
  | waits _ _ interlock =>
    rw [interlock] at older
    cases older
  | held _ _ _ wait =>
    rw [wait]
    split
    case isTrue => rfl
    case isFalse absent => exact (h.waits (Bool.eq_false_iff.mpr absent)).symm
  | leaves fate => exact absurd (Interlock.fate_of_heldByOlder older live) fate

/-- A cycle adds to the wait exactly if it reports that the unit is not ready. -/
theorem notReady_iff (inputs : Inputs) :
    (p.tick inputs).report.interlock.stalls.contains .coprocessorNotReady = true ↔
      (p.tick inputs).next.coprocessorWait = p.coprocessorWait + 1 := by
  cases tick_watchTurn h.units inputs with
  | waits _ _ interlock _ wait =>
    rw [interlock, wait]
    exact ⟨fun _ => rfl, fun _ => rfl⟩
  | held _ ready _ wait =>
    rw [ready]
    refine ⟨nofun, fun longer => ?_⟩
    split at wait <;> omega
  | leaves _ ready wait =>
    rw [ready]
    exact ⟨nofun, fun longer => by omega⟩

/-- A cycle that does not hold the execute stage ends the wait, and does not warn. -/
theorem tick_of_leaving {inputs : Inputs}
    (exits : (p.tick inputs).report.interlock.fate .execute ≠ .hold) :
    (p.tick inputs).next.coprocessorWait = 0 ∧ p.warnings inputs = [] := by
  cases tick_watchTurn h.units inputs with
  | waits _ _ interlock =>
    rw [interlock] at exits
    exact absurd rfl exits
  | held fate => exact absurd fate exits
  | leaves _ _ wait calm => exact ⟨wait, calm⟩

/-- A cycle warns exactly if it lengthens the wait to the threshold. -/
theorem warnings_cases (inputs : Inputs) :
    (p.coprocessorWait < limit ∧ (p.tick inputs).next.coprocessorWait = limit ∧
        ∃ e slot, p.core.latches.idEx = some e ∧ e.inst.slot? = some slot ∧
          p.warnings inputs =
            [.starved slot ((p.bank.cycle (some slot) (some e.request)).2.name slot) limit]) ∨
      (¬ (p.coprocessorWait < limit ∧ (p.tick inputs).next.coprocessorWait = limit) ∧
        p.warnings inputs = []) := by
  have threshold := h.limit
  cases tick_watchTurn h.units inputs with
  | @waits e slot entry owned _ _ wait warns =>
    rw [threshold] at warns
    by_cases reached : limit = p.coprocessorWait + 1
    · rw [if_pos reached, ← reached] at warns
      exact .inl ⟨by omega, wait.trans reached.symm, e, slot, entry, owned, warns⟩
    · rw [if_neg reached] at warns
      exact .inr ⟨fun rises => reached (rises.2.symm.trans wait), warns⟩
  | held _ _ _ wait calm =>
    refine .inr ⟨fun rises => ?_, calm⟩
    split at wait <;> omega
  | leaves _ _ wait calm => exact .inr ⟨fun rises => by omega, calm⟩

theorem length_warnings (inputs : Inputs) :
    (p.warnings inputs).length =
      if p.coprocessorWait < limit ∧ (p.tick inputs).next.coprocessorWait = limit then 1
      else 0 := by
  rcases h.warnings_cases inputs with ⟨below, reached, _, _, _, _, warns⟩ | ⟨stays, calm⟩
  · rw [warns, if_pos ⟨below, reached⟩]
    rfl
  · rw [calm, if_neg stays]
    rfl

/-- A cycle that holds the execute stage keeps its instruction, and counts it as waiting exactly if
it reports that the unit is not ready. -/
theorem tick_of_held {inputs : Inputs}
    (held : (p.tick inputs).report.interlock.fate .execute = .hold) :
    (p.tick inputs).next.core.latches.idEx = p.core.latches.idEx ∧
      (p.tick inputs).next.coprocessorWait = p.coprocessorWait +
        if (p.tick inputs).report.interlock.stalls.contains .coprocessorNotReady then 1 else 0 := by
  cases tick_watchTurn h.units inputs with
  | waits _ _ interlock kept wait =>
    refine ⟨kept, ?_⟩
    rw [wait, interlock]
    rfl
  | held _ ready kept wait =>
    refine ⟨kept, ?_⟩
    rw [wait, ready]
    split
    case isTrue => rfl
    case isFalse absent => exact (h.waits (Bool.eq_false_iff.mpr absent)).symm
  | leaves fate => exact absurd held fate

/-- Along cycles that hold the execute stage the wait counts those in which the unit is not ready,
and the threshold is passed once. -/
theorem run_of_held (during : Schedule)
    (held : ∀ r ∈ p.reports during, r.interlock.fate .execute = .hold) :
    (p.run during).core.latches.idEx = p.core.latches.idEx ∧
      (p.run during).coprocessorWait = p.coprocessorWait +
        (p.reports during).countP (·.interlock.stalls.contains .coprocessorNotReady) ∧
      (p.warningsAlong during).length =
        if p.coprocessorWait < limit ∧ limit ≤ (p.run during).coprocessorWait then 1 else 0 := by
  induction during generalizing p with
  | nil =>
    refine ⟨rfl, rfl, ?_⟩
    rw [if_neg fun passed => Nat.not_le.mpr passed.1 passed.2]
    rfl
  | cons inputs rest ih =>
    obtain ⟨kept, counted⟩ := h.tick_of_held (held _ (List.mem_cons_self ..))
    have warned := h.length_warnings inputs
    obtain ⟨same, total, later⟩ :=
      ih (h.tick inputs) fun r member => held r (List.mem_cons_of_mem _ member)
    refine ⟨same.trans kept, ?_, ?_⟩
    · rw [run_cons, total, counted, reports_cons, List.countP_cons]
      omega
    · change (p.warnings inputs ++ (p.tick inputs).next.warningsAlong rest).length = _
      rw [List.length_append, warned, later, run_cons]
      split at counted <;> split <;> split <;> split <;> omega

end Watched

/-- The starvation watch counts the wait of one instruction, and warns once. Whatever the ports and
the environment do, and with any units that are ready when they raise their exception lines: what is
in the execute stage has entered it then and was held there since; the count is the number of
cycles since then in which its unit was not ready, or zero if it is not the instruction of a
coprocessor; such a cycle adds one, and a cycle in which an older stage holds it leaves the count
alone; a cycle warns exactly if the count rises to the threshold, of the instruction in the execute
stage, so once in its stay if the count has got there and else not at all, and never in the cycle in
which it leaves. There is no other event of starvation but those that the units log themselves. -/
theorem starvation_watched (config : Configuration) (regs : RegisterFile) (imem : ι) (dmem : δ)
    {bank : Bank σ} (units : bank.Settles) (schedule : Schedule) :
    let p := (create config imem dmem bank).seeded regs
    let limit := config.pipeline.starvationWarnCycles
    let now := p.run schedule
    (∃ before during, schedule = before ++ during ∧ p.Stays .execute before during) ∧
      (∀ before during, schedule = before ++ during → p.Stays .execute before during →
        now.core.latches.idEx = (p.run before).core.latches.idEx ∧
          now.coprocessorWait =
            (if now.core.latches.hasOffload then
              ((p.run before).reports during).countP
                (·.interlock.stalls.contains .coprocessorNotReady)
            else 0) ∧
          ((p.run before).warningsAlong during).length =
            if 0 < limit ∧ limit ≤ now.coprocessorWait then 1 else 0) ∧
      ∀ inputs,
        let t := now.tick inputs
        (t.report.interlock.stalls.contains .coprocessorNotReady = true ↔
            t.next.coprocessorWait = now.coprocessorWait + 1) ∧
          (t.report.interlock.heldByOlder .execute = true →
            t.report.interlock.flushed .execute = false →
            t.next.coprocessorWait = now.coprocessorWait) ∧
          (now.warnings inputs).length =
            (if now.coprocessorWait < limit ∧ t.next.coprocessorWait = limit then 1 else 0) ∧
          (∀ w ∈ now.warnings inputs, ∃ e slot, now.core.latches.idEx = some e ∧
            e.inst.slot? = some slot ∧
            w = .starved slot ((now.bank.cycle (some slot) (some e.request)).2.name slot) limit) ∧
          (t.report.interlock.fate .execute ≠ .hold → now.warnings inputs = []) ∧
          t.events.filter (·.isStarvation) =
            now.warnings inputs ++ (now.unitEvents inputs).filter (·.isStarvation) := by
  intro p limit now
  have start : p.Watched limit := ⟨rfl, units, fun _ => rfl⟩
  have watched : now.Watched limit := start.run schedule
  refine ⟨p.exists_stays .execute schedule, ?_, fun inputs => ?_⟩
  · intro before during split stay
    have entered := start.run before
    have fresh : (p.run before).coprocessorWait = 0 :=
      stay.entered (·.coprocessorWait = 0) rfl fun earlier _ _ exits =>
        ((start.run earlier).tick_of_leaving exits).1
    have last : now = (p.run before).run during := by
      rw [← p.run_append, ← split]
    obtain ⟨kept, counted, warned⟩ := entered.run_of_held during stay.held
    rw [← last, fresh, Nat.zero_add] at counted
    rw [← last, fresh] at warned
    refine ⟨last ▸ kept, ?_, warned⟩
    split
    case isTrue => exact counted
    case isFalse absent => exact watched.waits (Bool.eq_false_iff.mpr absent)
  · refine ⟨watched.notReady_iff inputs, watched.wait_of_heldByOlder,
      watched.length_warnings inputs, fun w member => ?_,
      fun exits => (watched.tick_of_leaving exits).2, now.filter_events inputs⟩
    rcases watched.warnings_cases inputs with ⟨-, -, e, slot, entry, owned, warns⟩ | ⟨-, calm⟩
    · rw [warns] at member
      exact ⟨e, slot, entry, owned, List.mem_singleton.mp member⟩
    · rw [calm] at member
      cases member

end Pipeline

end Run

namespace Pipeline

/-- A memory of one word for CP2, which every address reaches, units with a latency of three cycles
and a threshold of two. -/
def starving : Pipeline Memory Memory ReferenceUnit :=
  let memory := (Memory.create 4 1).write 0 0x0000000B 0xF
  (create { pipeline := { starvationWarnCycles := 2 } } memory memory
    (.reference (.const 3))).seeded .zero

/-- The first operation waits for two cycles, though the environment stalls in between, and the
second of them warns. -/
theorem starvation_watched_starving :
    let during : Schedule := [{}, { externalStall := true }, {}]
    starving.Stays .execute (.quiet 2) during ∧
      (starving.run (.quiet 2 ++ during)).coprocessorWait = 2 ∧
      ((starving.run (.quiet 2)).warningsAlong during).length = 1 := by
  intro during
  have stay : starving.Stays .execute (.quiet 2) during :=
    .of_last (.quiet 1) {} rfl (by decide +kernel) (by decide +kernel)
  have wait : (starving.run (.quiet 2 ++ during)).coprocessorWait = 2 := by decide +kernel
  have watched := starvation_watched { pipeline := { starvationWarnCycles := 2 } } .zero
    starving.imem starving.dmem (Bank.reference (.const 3)).settles_reference (.quiet 2 ++ during)
  obtain ⟨-, -, warned⟩ := watched.2.1 (.quiet 2) during rfl stay
  exact ⟨stay, wait, warned.trans (if_pos ⟨by decide, Nat.le_of_eq wait.symm⟩)⟩

end Pipeline

end FiveStage
