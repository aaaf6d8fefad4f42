import FiveStage.Proofs.Pipeline.Causes

/-!
# What a report adds to the counters

The statistics of a run are its reports recorded one after the other, so a counter, or a sum of
some, holds how often that happened which one report adds to it (`counts_run`). This module has the
sums that the counters of one kind make up, and says for each what a report adds.
-/

namespace FiveStage

/-! ## Sums of counters -/

/-- All retired instructions. -/
def Mix.total (m : Mix) : Nat :=
  m.alu + m.load + m.store + m.branch + m.system + m.coprocessor

/-- The retired instructions that a coprocessor executed. -/
def Mix.offloads (m : Mix) : Nat :=
  m.system + m.coprocessor

/-- The stalls for any reason. -/
def StallCounts.total (c : StallCounts) : Nat :=
  c.raw + c.loadUse + c.coprocessor + c.memory + c.external

/-- The forwarded operands from any source. -/
def ForwardCounts.total (c : ForwardCounts) : Nat :=
  c.ex + c.memAlu + c.memLoad

/-- The sum over the slots. -/
def PerSlot.total (p : PerSlot Nat) : Nat :=
  p.cp0 + p.cp1 + p.cp2 + p.cp3

theorem Mix.total_count (m : Mix) (c : Category) : (m.count c).total = m.total + 1 := by
  cases c <;> simp only [count, total] <;> omega

theorem Mix.offloads_count (m : Mix) (c : Category) :
    (m.count c).offloads = m.offloads + if c = .system ∨ c = .coprocessor then 1 else 0 := by
  cases c <;> simp [count, offloads] <;> omega

theorem StallCounts.total_count (c : StallCounts) (reason : StallReason) :
    (c.count reason).total = c.total + 1 := by
  cases reason <;> simp only [count, total] <;> omega

theorem StallCounts.total_foldl (reasons : List StallReason) (c : StallCounts) :
    (reasons.foldl .count c).total = c.total + reasons.length := by
  induction reasons generalizing c with
  | nil => rfl
  | cons reason rest ih =>
    rw [List.foldl_cons, ih, c.total_count, List.length_cons]
    omega

theorem ForwardCounts.total_count_le (c : ForwardCounts) (source : ForwardSource) :
    (c.count source).total ≤ c.total + 1 := by
  cases source <;> simp only [count, total] <;> omega

theorem PerSlot.total_modify (p : PerSlot Nat) (slot : Slot) :
    (p.modify slot (· + 1)).total = p.total + 1 := by
  cases slot <;> simp only [modify, total] <;> omega

/-! ## What a report adds -/

/-- Whether a coprocessor was offered an operation. -/
def DispatchOutputs.issued (o : DispatchOutputs) : Bool :=
  o.offloaded && o.select.isSome

namespace Statistics

variable (s : Statistics) (r : Report)

theorem retired_record :
    (s.record r).retired = s.retired + r.retired.isSome.toNat := by
  unfold record
  cases r.retired <;> rfl

theorem mix_total_record :
    (s.record r).mix.total = s.mix.total + r.retired.isSome.toNat := by
  unfold record
  cases r.retired with
  | none => rfl
  | some w => exact s.mix.total_count w.category

theorem stalls_total_record :
    (s.record r).stalls.total = s.stalls.total + r.interlock.stalls.toList.length :=
  StallCounts.total_foldl _ _

theorem issues_total_record :
    (s.record r).issues.total = s.issues.total + r.dispatch.issued.toNat := by
  unfold record DispatchOutputs.issued
  cases r.dispatch.select with
  | none => simp
  | some slot => cases r.dispatch.offloaded <;> simp [PerSlot.total_modify]

theorem traps_record : (s.record r).traps = s.traps + r.trap.isSome.toNat := by
  unfold record
  cases r.trap <;> rfl

theorem stalls_coprocessor_record :
    (s.record r).stalls.coprocessor =
      s.stalls.coprocessor + r.interlock.stalls.coprocessorNotReady.toNat := by
  unfold record
  rcases r.interlock.stalls with ⟨raw, loadUse, coprocessor, memory, external⟩
  cases raw <;> cases loadUse <;> cases coprocessor <;> cases memory <;> cases external <;> rfl

theorem stalls_raw_record :
    (s.record r).stalls.raw = s.stalls.raw + r.interlock.stalls.rawHazard.toNat := by
  unfold record
  rcases r.interlock.stalls with ⟨raw, loadUse, coprocessor, memory, external⟩
  cases raw <;> cases loadUse <;> cases coprocessor <;> cases memory <;> cases external <;> rfl

theorem flushes_record :
    (s.record r).flushes =
      { branch := s.flushes.branch + r.interlock.flushes.branchMispredict.toNat
        exception := s.flushes.exception + r.interlock.flushes.exception.toNat
        interrupt := s.flushes.interrupt + r.interlock.flushes.interrupt.toNat } := by
  unfold record
  rcases r.interlock.flushes with ⟨branch, exception, interrupt⟩
  cases branch <;> cases exception <;> cases interrupt <;> rfl

theorem forwards_total_record_le : (s.record r).forwards.total ≤ s.forwards.total + 2 := by
  have first := s.forwards.total_count_le r.forwards.rs1
  have second := (s.forwards.count r.forwards.rs1).total_count_le r.forwards.rs2
  change ((s.forwards.count r.forwards.rs1).count r.forwards.rs2).total ≤ _
  omega

end Statistics

/-! ## One report of the pipeline -/

namespace Turn

variable {ι δ σ : Type} [MemoryPort ι] {p : Pipeline ι δ σ} {t : Tick ι δ σ}
  {accepted : Option IfId}

/-- There is one reason in a cycle that stalls. -/
theorem length_stalls (turn : Turn p t accepted) :
    t.report.interlock.stalls.toList.length = t.report.stalled.toNat := by
  unfold Report.stalled
  cases turn with
  | fetch _ interlock =>
    rw [interlock]
    rfl
  | @stall reason _ _ interlock =>
    rw [interlock]
    cases reason <;> rfl
  | branch _ _ _ _ interlock =>
    rw [interlock]
    rfl
  | exception interlock =>
    rw [interlock]
    rfl
  | @interrupt stall _ interlock =>
    rw [interlock]
    cases stall <;> rfl

/-- A cycle that takes a trap is flushed for one of two reasons, and not for both. -/
theorem count_traps (turn : Turn p t accepted) :
    t.report.interlock.flushes.exception.toNat + t.report.interlock.flushes.interrupt.toNat =
      t.report.trap.isSome.toNat := by
  cases turn with
  | fetch _ interlock trap =>
    rw [interlock, trap]
    rfl
  | stall _ interlock trap =>
    rw [interlock, trap]
    rfl
  | branch _ _ _ _ interlock trap =>
    rw [interlock, trap]
    rfl
  | exception interlock trap =>
    rw [interlock, trap]
    rfl
  | @interrupt stall _ interlock trap =>
    rw [interlock, trap]
    cases stall <;> rfl

end Turn

/-! ## Runs -/

theorem countP_cons_toNat {α : Type} (happens : α → Bool) (first : α) (rest : List α) :
    (first :: rest).countP happens = (happens first).toNat + rest.countP happens := by
  rw [List.countP_cons, Nat.add_comm]
  cases happens first <;> rfl

namespace Pipeline

variable {ι δ σ : Type} [MemoryPort ι] [MemoryPort δ] [Coprocessor σ]

/-- A count that each cycle advances by one if something happens in it, and else not, counts the
cycles in which that happens. -/
theorem counts_run (count : Statistics → Nat) (happens : Report → Bool)
    (step : ∀ (p : Pipeline ι δ σ) (inputs : Inputs) (s : Statistics),
      count (s.record (p.tick inputs).report) =
        count s + (happens (p.tick inputs).report).toNat)
    (p : Pipeline ι δ σ) (schedule : Schedule) :
    count (p.run schedule).core.stats =
      count p.core.stats + (p.reports schedule).countP happens := by
  induction schedule generalizing p with
  | nil => rfl
  | cons inputs rest ih =>
    have first : count (p.tick inputs).next.core.stats = _ := step p inputs p.core.stats
    rw [p.run_cons, ih, first, p.reports_cons, countP_cons_toNat, Nat.add_assoc]

end Pipeline

end FiveStage
