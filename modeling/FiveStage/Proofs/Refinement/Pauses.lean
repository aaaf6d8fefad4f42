import FiveStage.Proofs.Coprocessor.Hidden
import FiveStage.Proofs.Coprocessor.Starvation
import FiveStage.Proofs.Pipeline.Passages
import FiveStage.Proofs.Pipeline.Stay
import FiveStage.Proofs.Refinement.Commits

/-!
# Pauses

A cycle in which the environment stalls all stages, and does not interrupt, is a pause: apart from
counting the cycle it leaves everything as it is. To leave pauses out of a schedule is then no
difference but in cycle counts, as long as no instruction reads the count. `timeless` clears these
counts, a pause keeps the `timeless` part of a state, and every other cycle goes on alike from
states with the same `timeless` part.
-/

namespace FiveStage

/-- The environment stalls and does not interrupt. -/
def Inputs.pauses (inputs : Inputs) : Bool :=
  inputs.externalStall && !inputs.interrupt

/-! ## Clearing the cycle counts -/

/-- The unit with its cycle counter cleared. -/
def SystemUnit.timeless (u : SystemUnit) : SystemUnit :=
  { u with cycle := 0 }

def Bank.timeless (bank : Bank ReferenceUnit) : Bank ReferenceUnit :=
  bank.cleared SystemUnit.timeless

/-- The counts without the cycles that the environment stalled. -/
def StallCounts.timeless (c : StallCounts) : StallCounts :=
  { c with external := 0 }

def Statistics.timeless (s : Statistics) : Statistics :=
  { s with cycles := 0, stalls := s.stalls.timeless }

def Core.timeless (p : Core) : Core :=
  { p with stats := p.stats.timeless, cycle := 0 }

def Report.timeless (r : Report) : Report :=
  { r with cycle := 0 }

def DispatchCycle.timeless (d : DispatchCycle ReferenceUnit) : DispatchCycle ReferenceUnit :=
  { d with bank := d.bank.timeless }

section

variable {ι δ : Type}

def Cycle.timeless (c : Cycle ι δ ReferenceUnit) : Cycle ι δ ReferenceUnit :=
  { c with dispatch := c.dispatch.timeless }

def Pipeline.timeless (p : Pipeline ι δ ReferenceUnit) : Pipeline ι δ ReferenceUnit :=
  { p with core := p.core.timeless, bank := p.bank.timeless }

end

theorem SystemUnit.clears_timeless : Clears timeless (· = .cycle) where
  eq_iff u v := by
    simp only [timeless, SystemUnit.ext_iff, AgreesBut]
    constructor
    · intro agree r visible
      cases r <;> simp_all [read]
    · intro agree
      exact ⟨agree .mstatus (by decide), agree .mtvec (by decide), agree .mscratch (by decide),
        agree .mepc (by decide), agree .mcause (by decide), trivial, agree .instret (by decide)⟩
  twice _ := rfl
  fixed := by
    rintro r rfl
    rfl

/-! ## A cycle from the timeless state -/

section Cycle

variable {ι δ : Type} {bank : Bank ReferenceUnit} {operation : Operation} {csrs : SystemUnit}

/-- What is offered to a unit is the instruction in the execute stage, if it is for that unit. -/
theorem dispatchInputs_offered {entry : Option IdEx} {held : Bool} {slot : Slot} {req : Offload}
    (offered : req ∈ Bank.offered (dispatchInputs entry held).detection.select
      (dispatchInputs entry held).request slot) :
    ∃ e ∈ entry, req = e.request ∧ e.inst.slot? = some slot := by
  unfold Bank.offered at offered
  split at offered
  case isFalse => cases offered
  case isTrue selected =>
    cases entry with
    | none => cases offered
    | some e =>
      refine ⟨e, rfl, ?_⟩
      cases held with
      | true =>
        rw [detection_held] at selected
        cases selected
      | false =>
        cases owned : e.inst.slot? with
        | none =>
          rw [IdEx.dispatchInputs_of_integer owned] at selected
          cases selected
        | some other =>
          obtain ⟨-, detection, request⟩ := IdEx.dispatchInputs_of_slot owned
          rw [detection] at selected
          rw [request] at offered
          exact ⟨(Option.some.inj offered).symm, selected⟩

/-- The dispatcher works alike with another cycle count, unless an instruction asks for it. -/
theorem Bank.IsReference.dispatch_timeless (h : bank.IsReference operation csrs) (d : Dispatcher)
    {entry : Option IdEx} (blind : ∀ e ∈ entry, ¬ e.inst.reads .cycle) (held : Bool) :
    (d.cycle (dispatchInputs entry held) bank).timeless =
      (d.cycle (dispatchInputs entry held) bank.timeless).timeless := by
  generalize inputs_eq : dispatchInputs entry held = i
  have asked : ∀ req ∈ Bank.offered i.detection.select i.request .cp0,
      req.instruction.slot? = some .cp0 ∧ ∀ r, r = .cycle → ¬ req.instruction.reads r := by
    intro req offered
    rw [← inputs_eq] at offered
    obtain ⟨e, member, rfl, owned⟩ := dispatchInputs_offered offered
    refine ⟨owned, ?_⟩
    rintro r rfl
    exact blind e member
  obtain ⟨answer, units⟩ := h.cycle_cleared SystemUnit.clears_timeless asked
  have warned (outputs : DispatchOutputs) (waited : Nat) :
      d.warning? outputs (bank.cycle i.detection.select i.request).2 waited =
        d.warning? outputs (bank.timeless.cycle i.detection.select i.request).2 waited := by
    unfold Dispatcher.warning? Bank.timeless
    simp only [← Bank.name_cleared SystemUnit.timeless (Bank.cycle _ _ _).2, units]
  unfold Dispatcher.cycle DispatchCycle.timeless
  unfold Bank.timeless at warned ⊢
  simp only [answer, units, warned]

theorem DispatchCycle.outputs_of_timeless {d d' : DispatchCycle ReferenceUnit}
    (same : d.timeless = d'.timeless) : d.outputs = d'.outputs :=
  show d.timeless.outputs = d'.timeless.outputs by rw [same]

/-- The execute stage works alike with another cycle count, unless its instruction asks for it. -/
theorem Bank.IsReference.execute_timeless (h : bank.IsReference operation csrs) (asked : Interlock)
    (trapVector : Word) {entry : Option IdEx} (blind : ∀ e ∈ entry, ¬ e.inst.reads .cycle)
    (d : Dispatcher) :
    (executeStage asked trapVector entry d bank).1 =
        (executeStage asked trapVector entry d bank.timeless).1 ∧
      (executeStage asked trapVector entry d bank).2.timeless =
        (executeStage asked trapVector entry d bank.timeless).2.timeless := by
  have live : ∀ e ∈ entry.filter fun _ => !asked.flushed .execute, ¬ e.inst.reads .cycle :=
    fun e member => blind e (Option.mem_filter_iff.mp member).1
  have cycle := h.dispatch_timeless d live (asked.heldByOlder .execute)
  have outputs := DispatchCycle.outputs_of_timeless cycle
  unfold executeStage
  exact ⟨by simp only [outputs], cycle⟩

/-- The stages work alike from the timeless state. -/
theorem Bank.IsReference.evaluate_timeless [MemoryPort ι] [MemoryPort δ]
    (h : bank.IsReference operation csrs) (p : Core)
    (blind : ∀ e ∈ p.latches.idEx, ¬ e.inst.reads .cycle)
    (imem : ι) (dmem : δ) (inputs : Inputs) :
    (p.evaluate imem dmem bank inputs).timeless =
      (p.timeless.evaluate imem dmem bank.timeless inputs).timeless := by
  obtain ⟨outcome, dispatch⟩ := h.execute_timeless
    ((memoryStage (p.requested inputs) p.latches.exMem dmem).1.apply (p.requested inputs))
    p.settings.trapVector blind p.dispatcher
  change _ = (p.evaluate imem dmem bank.timeless inputs).timeless
  unfold Core.evaluate Cycle.timeless
  simp only [outcome, dispatch]

/-! ### The clock edge -/

theorem Cycle.nextBank_timeless (c : Cycle ι δ ReferenceUnit) :
    c.nextBank.timeless = c.timeless.nextBank.timeless := by
  have notified : c.notifiedBank.timeless = c.timeless.notifiedBank.timeless := by
    unfold notifiedBank
    change (if c.retired.isSome then c.dispatch.bank.retired else c.dispatch.bank).timeless =
      (if c.retired.isSome then c.dispatch.bank.timeless.retired
        else c.dispatch.bank.timeless).timeless
    split
    · exact Bank.cleared_retired SystemUnit.clears_timeless _
    · exact (Bank.cleared_cleared SystemUnit.clears_timeless _).symm
  have trapped : c.timeless.trap? = c.trap? := rfl
  unfold nextBank
  rw [trapped]
  cases c.trap? with
  | none => exact notified
  | some trap =>
    change (c.notifiedBank.trapTaken trap).timeless =
      (c.timeless.notifiedBank.trapTaken trap).timeless
    unfold Bank.timeless at notified ⊢
    rw [Bank.cleared_trapTaken SystemUnit.clears_timeless, notified,
      ← Bank.cleared_trapTaken SystemUnit.clears_timeless]

theorem StallCounts.foldl_timeless (reasons : List StallReason) (c : StallCounts) :
    (reasons.foldl .count c).timeless = (reasons.foldl .count c.timeless).timeless := by
  induction reasons generalizing c with
  | nil => rfl
  | cons reason rest ih =>
    have counted : (c.count reason).timeless = (c.timeless.count reason).timeless := by
      cases reason <;> rfl
    rw [List.foldl_cons, List.foldl_cons, ih (c.count reason), counted,
      ← ih (c.timeless.count reason)]

theorem Statistics.record_timeless (s : Statistics) (r : Report) :
    (s.record r).timeless = (s.timeless.record r.timeless).timeless := by
  have stalls := StallCounts.foldl_timeless r.interlock.stalls.toList s.stalls
  exact Statistics.ext rfl rfl rfl stalls rfl rfl rfl rfl

/-- The clock edge goes alike from the timeless state. -/
theorem Cycle.edge_timeless (c : Cycle ι δ ReferenceUnit) (p : Core) :
    (c.edge p).report.timeless = (c.timeless.edge p.timeless).report.timeless ∧
      (c.edge p).next.timeless = (c.timeless.edge p.timeless).next.timeless := by
  have units := c.nextBank_timeless
  have stats := p.stats.record_timeless (c.report p)
  refine ⟨rfl, ?_⟩
  unfold edge Pipeline.timeless Core.timeless nextCore
  simp only [units, stats]
  rfl

end Cycle

/-! ## Reachable states -/

/-- Only an operation of a coprocessor waits. -/
structure Pipeline.Orderly {ι δ : Type} (p : Pipeline ι δ ReferenceUnit) : Prop where
  units : ∃ operation csrs, p.bank.IsReference operation csrs
  waits : p.core.dispatcher.waited ≠ 0 → ∃ e ∈ p.core.latches.idEx, e.inst.slot?.isSome = true

section Orderly

variable {ι δ : Type}

/-- A reference unit is ready when it raises its exception line, as the starvation watch expects. -/
theorem Pipeline.Orderly.watched {p : Pipeline ι δ ReferenceUnit} (h : p.Orderly) :
    p.Watched p.core.dispatcher.warnAfter where
  limit := rfl
  units := p.bank.settles_reference
  waits idle := by
    refine Decidable.not_not.mp fun waiting => ?_
    obtain ⟨e, entry, owned⟩ := h.waits waiting
    rw [Latches.hasOffload, Option.mem_def.mp entry] at idle
    exact absurd (owned.symm.trans idle) nofun

/-- A wait is neither lost nor counted while the execute stage is held. -/
theorem Pipeline.Orderly.dispatcher_cycle_held {p : Pipeline ι δ ReferenceUnit} (h : p.Orderly) :
    (p.core.dispatcher.cycle (dispatchInputs p.core.latches.idEx true) p.bank).dispatcher =
      p.core.dispatcher := by
  have waited : (p.core.dispatcher.cycle (dispatchInputs p.core.latches.idEx true)
      p.bank).dispatcher.waited = p.core.dispatcher.waited := by
    rw [Dispatcher.waited_cycle_held]
    split
    case isTrue => rfl
    case isFalse absent => exact (h.watched.waits (Bool.eq_false_iff.mpr absent)).symm
  exact congrArg (fun waited => { p.core.dispatcher with waited }) waited

/-- A cycle leaves the units in order, and a wait with its instruction. -/
theorem Pipeline.Orderly.tick [MemoryPort ι] [MemoryPort δ] {p : Pipeline ι δ ReferenceUnit}
    (h : p.Orderly) (inputs : Inputs) : (p.tick inputs).next.Orderly := by
  obtain ⟨operation, csrs, units⟩ := h.units
  refine ⟨⟨operation, tick_isReference units inputs⟩, fun waited => ?_⟩
  have busy : (p.tick inputs).next.core.latches.hasOffload = true := by
    rw [← Bool.not_eq_false]
    exact fun idle => waited ((h.watched.tick inputs).waits idle)
  exact (Option.any_eq_true _ _).mp busy

end Orderly

/-! ## Pauses along a schedule -/

/-- The counters after one more cycle that the environment stalls. -/
def Statistics.afterPause (s : Statistics) : Statistics :=
  { s with cycles := s.cycles + 1, stalls := s.stalls.count .externalStall }

theorem Statistics.record_pause (s : Statistics) {r : Report} (retired : r.retired = none)
    (trap : r.trap = none)
    (interlock : r.interlock = ({} : Interlock).stall .externalStall .writeback)
    (forwards : r.forwards = ⟨.regFile, .regFile⟩) (silent : r.dispatch.offloaded = false) :
    s.record r = s.afterPause := by
  unfold record afterPause
  rw [retired, trap, interlock, forwards, silent]
  cases r.dispatch.select <;> rfl

section Schedules

variable {ι δ : Type} [MemoryPort ι] [MemoryPort δ] {p q : Pipeline ι δ ReferenceUnit}

/-- A pause counts one cycle, in the three places where cycles are counted, and does nothing
else. -/
theorem Pipeline.Orderly.tick_pause (h : p.Orderly) :
    (∃ csrs, p.bank.cp0 = .inl csrs ∧
      (p.tick { externalStall := true }).next =
        { p with
          core := { p.core with
            cycle := p.core.cycle + 1, stats := p.core.stats.afterPause }
          bank := { p.bank with cp0 := .inl { csrs with cycle := csrs.cycle + 1 } } }) ∧
      (p.tick { externalStall := true }).report.retired = none ∧
      (p.tick { externalStall := true }).report.trap = none := by
  obtain ⟨operation, csrs, units⟩ := h.units
  have tick : p.tick { externalStall := true } = _ :=
    congrArg (·.edge p.core) (evaluate_held p.core p.imem p.dmem p.bank)
  have leaves := p.core.leavesAt_held p.imem p.dmem p.bank
  have dispatcher := h.dispatcher_cycle_held
  have silent := p.core.dispatcher.offloaded_cycle_held p.core.latches.idEx p.bank
  have bank : (p.core.dispatcher.cycle (dispatchInputs p.core.latches.idEx true) p.bank).bank =
      { p.bank with cp0 := .inl { csrs with cycle := csrs.cycle + 1 } } := by
    rw [Dispatcher.bank_cycle_held, units.cycle_none_eq]
  rw [tick]
  refine ⟨⟨csrs, units.cp0, ?_⟩, rfl, leaves.trap_eq⟩
  generalize c_eq : p.core.assemble { externalStall := true } none (.idle, p.dmem)
    (.idle, p.core.dispatcher.cycle (dispatchInputs p.core.latches.idEx true) p.bank) .idle
    (.idle, p.imem) = c at leaves
  have stats : p.core.stats.record (c.report p.core) = p.core.stats.afterPause := by
    refine Statistics.record_pause _ ?_ leaves.trap_eq ?_ ?_ ?_ <;> subst c_eq
    · rfl
    · rfl
    · rfl
    · exact silent
  have pc : (c.report p.core).pcAfter = p.core.pc := leaves.pc_eq
  have kept : c.dispatch.dispatcher = p.core.dispatcher := c_eq ▸ dispatcher
  have regs : c.regs = p.core.regs := by
    subst c_eq
    rfl
  have core : c.nextCore p.core (c.report p.core) =
      { p.core with cycle := p.core.cycle + 1, stats := p.core.stats.afterPause } := by
    unfold Cycle.nextCore
    rw [stats, leaves.latches_eq, leaves.trap_eq, pc, kept, regs]
    rfl
  have told : c.nextBank = { p.bank with cp0 := .inl { csrs with cycle := csrs.cycle + 1 } } := by
    rw [← bank]
    subst c_eq
    rfl
  unfold Cycle.edge
  simp only [core, told]
  subst c_eq
  rfl

/-- From states with the same timeless part a cycle goes alike. -/
theorem Pipeline.Orderly.tick_timeless (hp : p.Orderly) (hq : q.Orderly)
    (same : p.timeless = q.timeless) (blind : ∀ e ∈ p.core.latches.idEx, ¬ e.inst.reads .cycle)
    (inputs : Inputs) :
    (p.tick inputs).report.timeless = (q.tick inputs).report.timeless ∧
      (p.tick inputs).next.timeless = (q.tick inputs).next.timeless := by
  have alone {p : Pipeline ι δ ReferenceUnit} (h : p.Orderly)
      (blind : ∀ e ∈ p.core.latches.idEx, ¬ e.inst.reads .cycle) :
      (p.tick inputs).report.timeless = (p.timeless.tick inputs).report.timeless ∧
        (p.tick inputs).next.timeless = (p.timeless.tick inputs).next.timeless := by
    obtain ⟨operation, csrs, units⟩ := h.units
    have cycle := units.evaluate_timeless p.core blind p.imem p.dmem inputs
    have here := (p.core.evaluate p.imem p.dmem p.bank inputs).edge_timeless p.core
    have there := (p.core.timeless.evaluate p.imem p.dmem p.bank.timeless inputs).edge_timeless
      p.core.timeless
    rw [cycle] at here
    exact ⟨here.1.trans there.1.symm, here.2.trans there.2.symm⟩
  have latches : p.core.latches = q.core.latches :=
    congrArg (·.core.latches) same
  obtain ⟨report, next⟩ := alone hp blind
  obtain ⟨report', next'⟩ := alone hq (latches ▸ blind)
  rw [same] at report next
  exact ⟨report.trans report'.symm, next.trans next'.symm⟩

theorem Pipeline.Orderly.timeless_pause (h : p.Orderly) :
    (p.tick { externalStall := true }).next.timeless = p.timeless := by
  obtain ⟨⟨csrs, system, next⟩, -⟩ := h.tick_pause
  have units : Bank.timeless { p.bank with cp0 := .inl { csrs with cycle := csrs.cycle + 1 } } =
      p.bank.timeless := by
    refine PerSlot.ext ?_ rfl rfl rfl
    change _ = Sum.map SystemUnit.timeless id p.bank.cp0
    rw [system]
    rfl
  rw [next]
  unfold timeless
  rw [units]
  rfl

theorem Inputs.eq_of_pauses {inputs : Inputs} (pauses : inputs.pauses = true) :
    inputs = { externalStall := true } := by
  obtain ⟨stall, interrupt⟩ := inputs
  cases stall <;> cases interrupt <;> first | rfl | cases pauses

/-- Leaving out the pauses of a schedule leaves the other cycles as they are. The induction is over
the schedule, for two states with the same timeless part: a pause moves the one that makes it and
not this part. -/
theorem Pipeline.Orderly.run_timeless (hp : p.Orderly) (hq : q.Orderly)
    (same : p.timeless = q.timeless) {schedule : Schedule}
    (blind : ∀ earlier, earlier <+: schedule →
      ∀ e ∈ (p.run earlier).core.latches.idEx, ¬ e.inst.reads .cycle) :
    (((schedule.zip (p.reports schedule)).filter (!·.1.pauses)).map (·.2.timeless)) =
        (q.reports (schedule.filter (!·.pauses))).map (·.timeless) ∧
      (p.run schedule).timeless = (q.run (schedule.filter (!·.pauses))).timeless := by
  induction schedule generalizing p q with
  | nil => exact ⟨rfl, same⟩
  | cons inputs rest ih =>
    have later : ∀ earlier, earlier <+: rest →
        ∀ e ∈ ((p.tick inputs).next.run earlier).core.latches.idEx, ¬ e.inst.reads .cycle :=
      fun earlier begins => blind (inputs :: earlier) (List.cons_prefix_cons.mpr ⟨rfl, begins⟩)
    rw [p.reports_cons, List.zip_cons_cons, p.run_cons]
    cases pauses : inputs.pauses with
    | true =>
      rw [List.filter_cons_of_neg (by simp [pauses]), List.filter_cons_of_neg (by simp [pauses])]
      cases Inputs.eq_of_pauses pauses
      exact ih (hp.tick _) hq (hp.timeless_pause.trans same) later
    | false =>
      rw [List.filter_cons_of_pos (by simp [pauses]), List.filter_cons_of_pos (by simp [pauses]),
        q.reports_cons, List.map_cons, List.map_cons, q.run_cons]
      have now : ∀ e ∈ p.core.latches.idEx, ¬ e.inst.reads .cycle := blind [] List.nil_prefix
      obtain ⟨report, next⟩ := hp.tick_timeless hq same now inputs
      obtain ⟨reports, last⟩ := ih (hp.tick inputs) (hq.tick inputs) next later
      exact ⟨by rw [report, reports], last⟩

end Schedules

/-! ## The words of the code -/

section Code

variable {δ σ : Type} [MemoryPort δ] [Coprocessor σ]

/-- Fetch does not write. -/
theorem Memory.storage_access_read (m : Memory) (address : Word) :
    (m.access (.read address)).2.storage = m.storage := by
  rcases m.access_cases (.read address) with ⟨-, storage⟩ | ⟨-, storage⟩ <;> exact storage

theorem Pipeline.tick_code (p : Pipeline Memory δ σ) (inputs : Inputs) :
    (p.tick inputs).next.imem.storage = p.imem.storage := by
  cases p.tick_fetchTurn inputs with
  | redirected _ port => rw [port]
  | held port => rw [port]
  | waits _ port =>
    rw [port]
    exact p.imem.storage_access_read _
  | answered _ port =>
    rw [port]
    exact p.imem.storage_access_read _

/-- What is fetched is in the code, which stays what it is. -/
theorem Pipeline.inst_of_fetches (p : Pipeline Memory δ σ) (schedule : Schedule) :
    ∀ f ∈ p.fetches schedule, f.inst = p.imem.storage.read f.pc := by
  induction schedule generalizing p with
  | nil => nofun
  | cons inputs rest ih =>
    intro f member
    rcases List.mem_append.mp member with first | later
    · obtain ⟨pc, answer⟩ := p.accepted_answer inputs (Option.mem_toList.mp first)
      rcases p.imem.access_cases (.read p.core.pc) with ⟨wait, -⟩ | ⟨done, -⟩
      · cases answer.symm.trans wait
      · rw [pc]
        exact congrArg (·.data) (answer.symm.trans done)
    · rw [← p.tick_code inputs]
      exact ih _ f later

end Code

namespace Setup

/-- What is in the execute stage was fetched from the code. -/
theorem inst_of_idEx (s : Setup) (schedule : Schedule) :
    ∀ e ∈ (s.pipeline.run schedule).core.latches.idEx, e.inst = s.imem.storage.read e.pc := by
  intro e entry
  have live := s.pipeline.follow_live [] schedule [] rfl
  have words := s.pipeline.follow_words [] schedule
  have alive : ({ word := e.word, place := .latched .execute } : Passage) ∈
      (s.pipeline.follow [] schedule).filter (·.place.isLive) := by
    rw [live]
    unfold Latches.passages
    rw [Option.mem_def.mp entry]
    simp [Passage.waiting]
  have fetched : e.word ∈ (s.pipeline.follow [] schedule).map (·.word) :=
    List.mem_map.mpr ⟨_, (List.mem_filter.mp alive).1, rfl⟩
  rw [words] at fetched
  exact s.pipeline.inst_of_fetches schedule e.word fetched

theorem orderly (s : Setup) (schedule : Schedule) : (s.pipeline.run schedule).Orderly := by
  have start : s.pipeline.Orderly :=
    ⟨⟨s.operation, {}, Bank.isReference_reference ..⟩, fun waited => absurd rfl waited⟩
  exact Pipeline.run_invariant Pipeline.Orderly start schedule fun _ inputs _ h => h.tick inputs

/-- In every reachable state a pause counts one cycle in the three places where cycles are counted,
and leaves all else as it is: the program counter, the latches, the registers, the memories with
their waits, the coprocessors and what the dispatcher has waited. If no instruction that reaches
execute reads the count, then the other cycles of a schedule are reported alike without its pauses,
apart from their index, and end in the same state, apart from the counts. -/
theorem pauses_stutter (s : Setup) (schedule : Schedule) :
    let p := s.pipeline.run schedule
    let pause := p.tick { externalStall := true }
    let kept := schedule.filter (!·.pauses)
    ((∃ csrs, p.bank.cp0 = .inl csrs ∧
        pause.next =
          { p with
            core := { p.core with
              cycle := p.core.cycle + 1, stats := p.core.stats.afterPause }
            bank := { p.bank with cp0 := .inl { csrs with cycle := csrs.cycle + 1 } } }) ∧
        pause.report.retired = none ∧ pause.report.trap = none) ∧
      ((∀ earlier, earlier <+: schedule →
          ∀ e ∈ (s.pipeline.run earlier).core.latches.idEx, ¬ e.inst.reads .cycle) →
        (((schedule.zip (s.pipeline.reports schedule)).filter (!·.1.pauses)).map
            (·.2.timeless)) = (s.pipeline.reports kept).map (·.timeless) ∧
          p.timeless = (s.pipeline.run kept).timeless) := by
  intro p pause kept
  exact ⟨(s.orderly schedule).tick_pause,
    fun blind => (s.orderly []).run_timeless (s.orderly []) rfl blind⟩

/-- Two pauses, one of them while fetch waits. -/
theorem pauses_stutter_counting :
    let schedule : Schedule :=
      [{}, { externalStall := true }, {}, {}, {}, {}, { externalStall := true }, {}, {}, {}]
    (counting.pipeline.commits schedule).length = 2 ∧
      (counting.pipeline.run schedule).timeless =
        (counting.pipeline.run [{}, {}, {}, {}, {}, {}, {}, {}]).timeless := by
  have absent : ∀ i : Fin counting.imem.storage.words.size,
      ¬ Instruction.reads counting.imem.storage.words[i] .cycle := by decide
  have stutter := counting.pauses_stutter
    [{}, { externalStall := true }, {}, {}, {}, {}, { externalStall := true }, {}, {}, {}]
  obtain ⟨-, last⟩ := stutter.2 fun earlier _ e entry => by
    rw [counting.inst_of_idEx earlier e entry]
    exact absent _
  exact ⟨by decide +kernel, last⟩

end Setup

end FiveStage
