import FiveStage.Proofs.Coprocessor.Zicsr
import FiveStage.Proofs.Pipeline.Stay
import FiveStage.Proofs.Statistics.Offloads

/-!
# The counters of a run

The pipeline counts its cycles, the statistics count what the reports say, and the system unit has
two registers that count. They count in different places, and agree at the end of every run
(`counters_agree`), whatever the ports answer and the environment does.
-/

namespace FiveStage

/-! ## The counters of the system unit -/

namespace Pipeline

variable {ι δ : Type} [MemoryPort ι] [MemoryPort δ] {operation : Operation} {csrs : SystemUnit}

/-- In a cycle the system unit is clocked once, and told at most once that an instruction has
retired. -/
theorem tick_stimuli {p : Pipeline ι δ ReferenceUnit} (units : p.bank.IsReference operation csrs)
    (inputs : Inputs) :
    ∃ history, (p.tick inputs).next.bank.IsReference operation (Coprocessor.after csrs history) ∧
      history.countP (·.isClocked) = 1 ∧
      history.countP (·.isRetired) = (p.tick inputs).report.retired.isSome.toNat := by
  change ∃ history, (p.core.evaluate p.imem p.dmem p.bank inputs).nextBank.IsReference _ _ ∧
    _ ∧
    _ = (p.core.evaluate p.imem p.dmem p.bank inputs).retired.isSome.toNat
  obtain ⟨offer, clocked⟩ : ∃ offer,
      (p.core.evaluate p.imem p.dmem p.bank inputs).dispatch.bank.IsReference operation
        (Coprocessor.after csrs [.clocked offer]) := ⟨_, units.cycle _ _⟩
  generalize p.core.evaluate p.imem p.dmem p.bank inputs = c at clocked ⊢
  obtain ⟨history, notified, clocks, retires⟩ : ∃ history,
      c.notifiedBank.IsReference operation (Coprocessor.after csrs history) ∧
        history.countP (·.isClocked) = 1 ∧
        history.countP (·.isRetired) = c.retired.isSome.toNat := by
    unfold Cycle.notifiedBank
    cases c.retired.isSome with
    | true => exact ⟨[.clocked offer, .retired], clocked.retired, rfl, rfl⟩
    | false => exact ⟨[.clocked offer], clocked, rfl, rfl⟩
  unfold Cycle.nextBank
  cases c.trap? with
  | none => exact ⟨history, notified, clocks, retires⟩
  | some trap =>
    refine ⟨history ++ [.trapTaken trap], ?_, ?_, ?_⟩
    · rw [Coprocessor.after_append]
      exact notified.trapTaken trap
    · rw [List.countP_append, clocks]
      rfl
    · rw [List.countP_append, retires]
      rfl

/-- In a run it is clocked as often as there are cycles, and told of every retired instruction. -/
theorem run_stimuli {p : Pipeline ι δ ReferenceUnit} (units : p.bank.IsReference operation csrs)
    (schedule : Schedule) :
    ∃ history, (p.run schedule).bank.IsReference operation (Coprocessor.after csrs history) ∧
      history.countP (·.isClocked) = schedule.length ∧
      history.countP (·.isRetired) = (p.reports schedule).countP (·.retired.isSome) := by
  induction schedule generalizing p csrs with
  | nil => exact ⟨[], units, rfl, rfl⟩
  | cons inputs rest ih =>
    obtain ⟨first, units', clocks, retires⟩ := tick_stimuli units inputs
    obtain ⟨more, final, clocks', retires'⟩ := ih units'
    refine ⟨first ++ more, ?_, ?_, ?_⟩
    · rw [Coprocessor.after_append]
      exact final
    · rw [List.countP_append, clocks, clocks', List.length_cons, Nat.add_comm]
    · rw [List.countP_append, retires, retires', p.reports_cons, countP_cons_toNat]

end Pipeline

/-! ## Forwarding -/

/-- An operand that no instruction in flight writes comes from the register file. -/
theorem Forwarded.source_resolve {r : Nat} {stored : Word} {ex mem : Producer}
    (free : Hazard.classify r ex mem ≠ .raw) :
    (Forwarded.resolve r stored ex mem).source = .regFile := by
  unfold Hazard.classify at free
  unfold Forwarded.resolve
  cases first : ex.produces r <;> cases second : mem.produces r <;> simp_all

/-- Decode asks for no stall with an instruction that it issues. -/
theorem DecodeOutcome.rawHazard_issued (e : IdEx) (hazards : Operands Hazard)
    (operands : Operands Forwarded) (redirect : Option (PcSource × Word)) (asked : Interlock) :
    ((issued e hazards operands redirect).apply asked).stalls.rawHazard =
      asked.stalls.rawHazard := by
  cases redirect <;> rfl

section Decode

variable (f : IfId) (regs : RegisterFile) (ex mem : Producer)

/-- With forwarding off, decode issues no operand but from the register file. -/
theorem IfId.forwards_decode_false :
    (f.decode false regs ex mem).forwards = ⟨.regFile, .regFile⟩ := by
  unfold IfId.decode
  dsimp only
  split
  · rfl
  · split
    · rfl
    · split
      · rfl
      · rename_i free
        rw [Bool.not_false, Bool.true_and, Bool.or_eq_true, beq_iff_eq, beq_iff_eq, not_or] at free
        change Operands.mk (Forwarded.resolve _ _ ex mem).source
          (Forwarded.resolve _ _ ex mem).source = _
        rw [Forwarded.source_resolve free.1, Forwarded.source_resolve free.2]

/-- With forwarding on, decode waits for no operand but a loaded one. -/
theorem IfId.rawHazard_decode_true (asked : Interlock) :
    ((f.decode true regs ex mem).apply asked).stalls.rawHazard = asked.stalls.rawHazard := by
  unfold IfId.decode
  dsimp only
  split
  · rfl
  · split
    · rfl
    · rw [Bool.not_true, Bool.false_and, if_neg Bool.false_ne_true]
      exact DecodeOutcome.rawHazard_issued ..

end Decode

namespace Pipeline

section Forwarding

variable {ι δ σ : Type} [MemoryPort ι] [MemoryPort δ] [Coprocessor σ]

/-- With forwarding off, no operand is reported as forwarded. -/
theorem tick_forwards {p : Pipeline ι δ σ} (off : p.core.settings.forwarding = false)
    (inputs : Inputs) : (p.tick inputs).report.forwards = ⟨.regFile, .regFile⟩ := by
  change (decodeStage _ p.core.settings.forwarding p.core.latches.ifId _ _ _).forwards = _
  rw [off]
  cases p.core.latches.ifId with
  | none => rfl
  | some f =>
    unfold decodeStage
    dsimp only
    split
    · rfl
    · exact f.forwards_decode_false ..

/-- With forwarding on, no cycle waits for an operand that could be forwarded. -/
theorem tick_rawHazard {p : Pipeline ι δ σ} (on : p.core.settings.forwarding = true)
    (inputs : Inputs) : (p.tick inputs).report.interlock.stalls.rawHazard = false := by
  have requested : (p.core.requested inputs).stalls.rawHazard = false := by
    obtain ⟨stall, interrupt⟩ := inputs
    cases stall <;> cases interrupt <;> rfl
  have memory (asked : Interlock) (m : MemoryOutcome) :
      (m.apply asked).stalls.rawHazard = asked.stalls.rawHazard := by
    cases m <;> rfl
  have execute (asked : Interlock) (x : ExecuteOutcome) :
      (x.apply asked).stalls.rawHazard = asked.stalls.rawHazard := by
    cases x <;> rfl
  have decode (asked seen : Interlock) (regs : RegisterFile) (ex mem : Producer) :
      ((decodeStage seen p.core.settings.forwarding p.core.latches.ifId regs ex mem).apply
        asked).stalls.rawHazard = asked.stalls.rawHazard := by
    rw [on]
    cases p.core.latches.ifId with
    | none => rfl
    | some f =>
      unfold decodeStage
      dsimp only
      split
      · rfl
      · exact f.rawHazard_decode_true ..
  have fetch (asked : Interlock) (x : FetchOutcome) :
      (x.apply asked).stalls.rawHazard = asked.stalls.rawHazard := by
    cases x <;> rfl
  change (p.core.evaluate p.imem p.dmem p.bank inputs).interlock.stalls.rawHazard = false
  unfold Core.evaluate
  dsimp only
  rw [fetch, decode, execute, memory, requested]

/-- What no cycle under the settings changes, the run does not change. -/
theorem kept_run {α : Type} (value : Statistics → α) (p : Pipeline ι δ σ)
    (kept : ∀ (q : Pipeline ι δ σ) (inputs : Inputs), q.core.settings = p.core.settings →
      value (q.core.stats.record (q.tick inputs).report) = value q.core.stats)
    (schedule : Schedule) : value (p.run schedule).core.stats = value p.core.stats := by
  refine run_invariant
    (fun q => q.core.settings = p.core.settings ∧ value q.core.stats = value p.core.stats)
    ⟨rfl, rfl⟩ schedule ?_ |>.2
  intro earlier inputs _ before
  exact ⟨before.1, (kept _ inputs before.1).trans before.2⟩

theorem forwards_run {p : Pipeline ι δ σ} (off : p.core.settings.forwarding = false)
    (schedule : Schedule) :
    (p.run schedule).core.stats.forwards = p.core.stats.forwards := by
  refine p.kept_run (·.forwards) ?_ schedule
  intro q inputs same
  have nothing := tick_forwards (p := q) (by rw [same, off]) inputs
  unfold Statistics.record
  rw [nothing]
  rfl

theorem stalls_raw_run {p : Pipeline ι δ σ} (on : p.core.settings.forwarding = true)
    (schedule : Schedule) :
    (p.run schedule).core.stats.stalls.raw = p.core.stats.stalls.raw := by
  refine p.kept_run (·.stalls.raw) ?_ schedule
  intro q inputs same
  have never := tick_rawHazard (p := q) (by rw [same, on]) inputs
  rw [Statistics.stalls_raw_record, never]
  rfl

end Forwarding

end Pipeline

/-! ## All counters -/

/-- The counters one by one. -/
def Statistics.counters (s : Statistics) : List Nat :=
  [s.cycles, s.retired, s.mix.alu, s.mix.load, s.mix.store, s.mix.branch, s.mix.system,
    s.mix.coprocessor, s.stalls.raw, s.stalls.loadUse, s.stalls.coprocessor, s.stalls.memory,
    s.stalls.external, s.flushes.branch, s.flushes.exception, s.flushes.interrupt, s.forwards.ex,
    s.forwards.memAlu, s.forwards.memLoad, s.traps] ++ s.issues.toList

/-- The counters at the end of a run from `p`, where they are zero, agree with the run and with each
other. -/
structure CountersAgree {ι δ : Type} [MemoryPort ι] [MemoryPort δ]
    (p : Pipeline ι δ ReferenceUnit) (schedule : Schedule) (now : Core) (csrs : SystemUnit) :
    Prop where
  cycle : now.cycle = schedule.length
  cycles : now.stats.cycles = schedule.length
  csrCycle : csrs.cycle = BitVec.ofNat 32 schedule.length
  csrInstret : csrs.instret = BitVec.ofNat 32 now.stats.retired
  retired : now.stats.retired = (p.reports schedule).countP (·.retired.isSome)
  mix : now.stats.mix.total = now.stats.retired
  stalls : now.stats.stalls.total = (p.reports schedule).countP (·.stalled)
  traps : now.stats.traps = now.stats.flushes.exception + now.stats.flushes.interrupt
  /-- Nothing is forwarded with forwarding off. -/
  forwards : now.settings.forwarding = false → now.stats.forwards = {}
  /-- With forwarding on, no operand is waited for that could be forwarded. -/
  raw : now.settings.forwarding = true → now.stats.stalls.raw = 0
  /-- A coprocessor that is offered an operation is waited for, raises an exception, or completes
  an instruction, which goes on until it retires or is discarded. -/
  issues : now.stats.issues.total = now.stats.stalls.coprocessor + now.stats.flushes.exception +
    (now.stats.mix.offloads + now.latches.offloads + offloads (p.discarded schedule))
  offloads : now.stats.mix.offloads = offloads ((p.retired schedule).map (·.inst))
  /-- So a counter of 64 bits lasts for as many cycles as 63 bits can count. -/
  bounded : ∀ count ∈ now.stats.counters, count ≤ 2 * schedule.length

/-- What the sums of the counters are after the cycles with the given reports. -/
structure Statistics.Sums (s : Statistics) (reports : List Report) : Prop where
  cycles : s.cycles = reports.length
  retired : s.retired = reports.countP (·.retired.isSome)
  mix : s.mix.total = reports.countP (·.retired.isSome)
  stalls : s.stalls.total = reports.countP (·.stalled)
  waits : s.stalls.coprocessor = reports.countP (·.interlock.stalls.coprocessorNotReady)
  branches : s.flushes.branch = reports.countP (·.interlock.flushes.branchMispredict)
  exceptions : s.flushes.exception = reports.countP (·.interlock.flushes.exception)
  interrupts : s.flushes.interrupt = reports.countP (·.interlock.flushes.interrupt)
  traps : s.traps = reports.countP (·.trap.isSome)
  issues : s.issues.total = reports.countP (·.dispatch.issued)
  forwards : s.forwards.total ≤ 2 * reports.length

/-- Every counter is part of a sum that a cycle advances by two at most. -/
theorem Statistics.Sums.counters_le {s : Statistics} {reports : List Report}
    (sums : s.Sums reports) : ∀ count ∈ s.counters, count ≤ 2 * reports.length := by
  have most (happens : Report → Bool) : reports.countP happens ≤ reports.length :=
    List.countP_le_length
  have retired := sums.retired ▸ most _
  have mix := sums.mix ▸ most _
  have stalls := sums.stalls ▸ most _
  have branches := sums.branches ▸ most _
  have exceptions := sums.exceptions ▸ most _
  have interrupts := sums.interrupts ▸ most _
  have traps := sums.traps ▸ most _
  have issues := sums.issues ▸ most _
  have cycles := sums.cycles
  have forwards := sums.forwards
  unfold Mix.total at mix
  unfold StallCounts.total at stalls
  unfold PerSlot.total at issues
  unfold ForwardCounts.total at forwards
  unfold counters PerSlot.toList
  simp only [List.cons_append, List.nil_append, List.forall_mem_cons, List.not_mem_nil,
    false_implies, implies_true, and_true]
  omega

namespace Pipeline

variable {ι δ σ : Type} [MemoryPort ι] [MemoryPort δ] [Coprocessor σ]

theorem cycle_run (p : Pipeline ι δ σ) (schedule : Schedule) :
    (p.run schedule).core.cycle = p.core.cycle + schedule.length := by
  induction schedule generalizing p with
  | nil => rfl
  | cons inputs rest ih =>
    have one : (p.tick inputs).next.core.cycle = p.core.cycle + 1 := rfl
    rw [p.run_cons, ih, one, List.length_cons, Nat.add_assoc, Nat.add_comm 1]

theorem traps_run (p : Pipeline ι δ σ) (schedule : Schedule)
    (level : p.core.stats.traps = p.core.stats.flushes.exception + p.core.stats.flushes.interrupt) :
    (p.run schedule).core.stats.traps =
      (p.run schedule).core.stats.flushes.exception +
        (p.run schedule).core.stats.flushes.interrupt := by
  refine run_invariant
    (fun q => q.core.stats.traps = q.core.stats.flushes.exception + q.core.stats.flushes.interrupt)
    level schedule ?_
  intro earlier inputs _ before
  generalize p.run earlier = q at before ⊢
  have one := (q.tick_turn inputs).count_traps
  change (q.core.stats.record (q.tick inputs).report).traps =
    (q.core.stats.record (q.tick inputs).report).flushes.exception +
      (q.core.stats.record (q.tick inputs).report).flushes.interrupt
  rw [Statistics.traps_record, Statistics.flushes_record, before]
  dsimp only
  omega

theorem forwards_total_run_le (p : Pipeline ι δ σ) (schedule : Schedule) :
    (p.run schedule).core.stats.forwards.total ≤
      p.core.stats.forwards.total + 2 * schedule.length := by
  induction schedule generalizing p with
  | nil => exact Nat.le_refl _
  | cons inputs rest ih =>
    have one := p.core.stats.forwards_total_record_le (p.tick inputs).report
    have more := ih (p.tick inputs).next
    change _ ≤ (p.core.stats.record (p.tick inputs).report).forwards.total + _ at more
    rw [p.run_cons, List.length_cons]
    omega

/-- What the sums of the counters are after a run. -/
theorem sums_run {p : Pipeline ι δ σ} (zero : p.core.stats = {}) (schedule : Schedule) :
    (p.run schedule).core.stats.Sums (p.reports schedule) := by
  have counted (count : Statistics → Nat) (happens : Report → Bool)
      (step : ∀ (q : Pipeline ι δ σ) (inputs : Inputs) (s : Statistics),
        count (s.record (q.tick inputs).report) =
          count s + (happens (q.tick inputs).report).toNat)
      (none : count {} = 0) :
      count (p.run schedule).core.stats = (p.reports schedule).countP happens := by
    rw [counts_run count happens step, zero, none, Nat.zero_add]
  have cycles := counted (·.cycles) (fun _ => true) (fun _ _ _ => rfl) rfl
  have forwards := p.forwards_total_run_le schedule
  have unforwarded : ({} : Statistics).forwards.total = 0 := rfl
  rw [zero, unforwarded, Nat.zero_add, ← p.length_reports schedule] at forwards
  exact
    { cycles := cycles.trans (congrFun List.countP_true _)
      retired := counted (·.retired) _ (fun _ _ s => s.retired_record _) rfl
      mix := counted (·.mix.total) _ (fun _ _ s => s.mix_total_record _) rfl
      stalls := counted (·.stalls.total) (·.stalled) (fun q inputs s => by
        rw [s.stalls_total_record, (q.tick_turn inputs).length_stalls]) rfl
      waits := counted (·.stalls.coprocessor) _ (fun _ _ s => s.stalls_coprocessor_record _) rfl
      branches := counted (·.flushes.branch) _ (fun _ _ s => by rw [s.flushes_record]) rfl
      exceptions := counted (·.flushes.exception) _ (fun _ _ s => by rw [s.flushes_record]) rfl
      interrupts := counted (·.flushes.interrupt) _ (fun _ _ s => by rw [s.flushes_record]) rfl
      traps := counted (·.traps) _ (fun _ _ s => s.traps_record _) rfl
      issues := counted (·.issues.total) _ (fun _ _ s => s.issues_total_record _) rfl
      forwards }

variable {ι δ : Type} [MemoryPort ι] [MemoryPort δ]

/-- All counters agree with the run. Whatever the ports answer and the environment does, at the end
of a run with the reference bank the pipeline, the statistics and the system unit have counted the
same cycles and the same retired instructions, the categories and the reasons add up to what they
divide, and every offer to a coprocessor is accounted for. -/
theorem counters_agree (config : Configuration) (latency : PerSlot Nat) (operation : Operation)
    (regs : RegisterFile) (imem : ι) (dmem : δ) (schedule : Schedule) :
    let p := (create config imem dmem (.reference latency operation)).seeded regs
    ∃ csrs, (p.run schedule).bank.cp0 = .inl csrs ∧
      CountersAgree p schedule (p.run schedule).core csrs := by
  intro p
  have sums := sums_run (p := p) rfl schedule
  -- There is nothing in the latches yet.
  have informed : p.Informed := ⟨(fun _ member => by cases member), fun _ member => by cases member⟩
  have marked : p.Marked := ⟨(fun _ member => by cases member), fun _ member => by cases member⟩
  have mix := mix_offloads_run marked informed schedule
  have balance := p.offers_balance schedule
  have same := p.settings_run schedule
  obtain ⟨history, units, clocks, retires⟩ :=
    run_stimuli (p := p) (Bank.isReference_reference latency operation) schedule
  have counted := SystemUnit.cycle_after {} history
  have noticed := SystemUnit.instret_after {} history
  refine ⟨_, units.cp0, ?_⟩
  exact
    { cycle := (p.cycle_run schedule).trans (Nat.zero_add _)
      cycles := by rw [sums.cycles, length_reports]
      csrCycle := by
        rw [counted, clocks]
        exact BitVec.zero_add _
      csrInstret := by
        rw [noticed, retires, sums.retired]
        exact BitVec.zero_add _
      retired := sums.retired
      mix := sums.mix.trans sums.retired.symm
      stalls := sums.stalls
      traps := p.traps_run schedule rfl
      forwards := fun off => forwards_run (p := p) (same ▸ off) schedule
      raw := fun on => stalls_raw_run (p := p) (same ▸ on) schedule
      issues := by
        rw [sums.issues, sums.waits, sums.exceptions, mix]
        change _ + 0 = _ at balance
        change _ = _ + (0 + _ + _ + _)
        omega
      offloads := mix.trans (Nat.zero_add _)
      bounded := p.length_reports schedule ▸ sums.counters_le }

end Pipeline

end FiveStage
