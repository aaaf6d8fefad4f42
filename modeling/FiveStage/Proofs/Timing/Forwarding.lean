import FiveStage.Proofs.Pipeline.Passages
import FiveStage.Proofs.Refinement.Commits
import FiveStage.Proofs.Timing.Outlook

/-!
# Forwarding does not cost time

Two pipelines that differ in forwarding start alike. The one that forwards has the outlook of the
other, or the outlook that the other will have once decode no longer waits, and it `Leads`: it is
there no later, the cycles included that the two memory stages still need. A cycle of the slower one
is matched by as many cycles of the faster one as that takes, or by none. So whatever retires in a
cycle of the slower one has retired in the faster one by then.
-/

namespace FiveStage

namespace Outlook

variable {o : Outlook} {trapVector : Word} {forwarding : Bool} {x x' : Option ExMem}
  {next next' : Outlook}

/-- From one outlook the pipeline that forwards goes where the other goes, unless decode waits in
the other alone. -/
theorem Step.compare (fast : o.Step trapVector true x next)
    (slow : o.Step trapVector false x' next') :
    x = x' ∧ (next = next' ∨ next'.idEx = none ∧ next = next'.issue) := by
  cases fast with
  | detours hindered =>
    cases slow with
    | detours => exact ⟨rfl, .inl rfl⟩
    | stalls passes => exact absurd passes hindered
    | goes passes => exact absurd passes hindered
  | stalls passes wait =>
    cases slow with
    | detours hindered => exact absurd passes hindered
    | stalls => exact ⟨rfl, .inl rfl⟩
    | goes _ known =>
      rcases wait with load | off
      · cases load.symm.trans known
      · cases off
  | goes passes =>
    cases slow with
    | detours hindered => exact absurd passes hindered
    | stalls => exact ⟨rfl, .inr ⟨rfl, rfl⟩⟩
    | goes => exact ⟨rfl, .inl rfl⟩

/-- With nothing in the execute stage only decode can be waited for. -/
theorem Step.of_empty (step : o.Step trapVector forwarding x next) (empty : o.idEx = none)
    (still : o.drain trapVector = o) : x = none ∧ (next = o ∨ next = o.issue) := by
  have idle : (o.execute trapVector).1 = .idle := by
    unfold execute
    rw [empty]
  cases step with
  | detours hindered =>
    rw [idle] at hindered
    exact absurd rfl hindered
  | stalls =>
    rw [idle, still]
    exact ⟨rfl, .inl rfl⟩
  | goes =>
    rw [idle, still]
    exact ⟨rfl, .inr rfl⟩

end Outlook

/-! ## Counting -/

namespace Pipeline

section Counts

variable {ι δ σ : Type} [MemoryPort ι] [MemoryPort δ] [Coprocessor σ]

/-- The number of instructions that the memory stage is done with after `n` cycles. -/
def finished (p : Pipeline ι δ σ) (n : Nat) : Nat :=
  (p.retired (.quiet n)).length + (p.run (.quiet n)).core.latches.memWb.toList.length

/-- The number of instructions that execute is done with after `n` cycles. -/
def executed (p : Pipeline ι δ σ) (n : Nat) : Nat :=
  p.finished n + (p.run (.quiet n)).core.latches.exMem.toList.length

theorem run_quiet_add (p : Pipeline ι δ σ) (m n : Nat) :
    p.run (.quiet (m + n)) = (p.run (.quiet m)).run (.quiet n) := by
  unfold Schedule.quiet
  rw [← List.replicate_append_replicate, p.run_append]

theorem retired_quiet_add (p : Pipeline ι δ σ) (m n : Nat) :
    p.retired (.quiet (m + n)) =
      p.retired (.quiet m) ++ (p.run (.quiet m)).retired (.quiet n) := by
  unfold Schedule.quiet
  rw [← List.replicate_append_replicate, p.retired_append]

/-- What is in the last latch retires in the next cycle. -/
theorem retired_quiet_one (p : Pipeline ι δ σ) :
    (p.tick {}).report.retired = p.core.latches.memWb ∧
      p.retired (.quiet 1) = p.core.latches.memWb.toList := by
  have retires := (p.tick_retired {}).1 rfl
  have first : p.retired (.quiet 1) = (p.tick {}).report.retired.toList ++ [] :=
    p.retired_cons {} []
  rw [retires, List.append_nil] at first
  exact ⟨retires, first⟩

theorem finished_add (p : Pipeline ι δ σ) (m n : Nat) :
    p.finished (m + n) = (p.retired (.quiet m)).length + (p.run (.quiet m)).finished n := by
  unfold finished
  rw [p.retired_quiet_add, List.length_append, p.run_quiet_add, Nat.add_assoc]

theorem executed_add (p : Pipeline ι δ σ) (m n : Nat) :
    p.executed (m + n) = (p.retired (.quiet m)).length + (p.run (.quiet m)).executed n := by
  unfold executed
  rw [p.finished_add, p.run_quiet_add, Nat.add_assoc]

/-- In one cycle the memory stage is done with what it hands on. -/
theorem finished_one (p : Pipeline ι δ σ) :
    p.finished 1 = p.finished 0 + (p.moved {}).toList.length := by
  have moved := congrArg List.length (p.retired_append_memWb {})
  obtain ⟨retires, first⟩ := p.retired_quiet_one
  rw [List.length_append, List.length_append, retires] at moved
  unfold finished
  rw [first]
  change _ + (p.tick {}).next.core.latches.memWb.toList.length =
    0 + p.core.latches.memWb.toList.length + _
  omega

/-- A cycle in which the memory stage waits changes no count. -/
theorem executed_of_waits {p : Pipeline ι δ σ} (nothing : p.moved {} = none)
    (kept : (p.tick {}).next.core.latches.exMem = p.core.latches.exMem) :
    p.executed 1 = p.executed 0 := by
  have finished := p.finished_one
  rw [nothing] at finished
  change p.finished 1 + (p.tick {}).next.core.latches.exMem.toList.length =
    p.finished 0 + p.core.latches.exMem.toList.length
  rw [finished, kept]
  rfl

/-- In any other cycle the memory stage is done with what execute had handed on. -/
theorem finished_of_works {p : Pipeline ι δ σ}
    (passed : (p.moved {}).isSome = p.core.latches.exMem.isSome) :
    p.finished 1 = p.executed 0 := by
  have same : (p.moved {}).toList.length = p.core.latches.exMem.toList.length := by
    revert passed
    cases p.moved {} <;> cases p.core.latches.exMem <;> simp
  rw [p.finished_one, same]
  rfl

theorem finished_mono (p : Pipeline ι δ σ) {m n : Nat} (le : m ≤ n) :
    p.finished m ≤ p.finished n := by
  obtain ⟨k, rfl⟩ := Nat.exists_eq_add_of_le le
  have stays := memWb_prefix (p.run (.quiet m)) (.quiet k)
  have most := stays.length_le
  rw [List.length_append] at most
  rw [p.finished_add]
  unfold finished
  omega

/-- What the memory stage is done with has retired a cycle later. -/
theorem length_retired_quiet (p : Pipeline ι δ σ) (n : Nat) :
    (p.retired (.quiet (n + 1))).length = p.finished n := by
  unfold finished
  rw [p.retired_quiet_add, (p.run (.quiet n)).retired_quiet_one.2, List.length_append]

/-- In cycle `n` without inputs the `k`-th instruction retires, both counted from zero. -/
def RetiresAt (p : Pipeline ι δ σ) (k n : Nat) : Prop :=
  (p.retired (.quiet n)).length = k ∧
    ((p.run (.quiet n)).tick {}).report.retired.isSome = true

instance (p : Pipeline ι δ σ) (k n : Nat) : Decidable (p.RetiresAt k n) :=
  inferInstanceAs (Decidable (_ ∧ _))

theorem retiresAt_iff {p : Pipeline ι δ σ} {k n : Nat} :
    p.RetiresAt k n ↔ (p.retired (.quiet n)).length = k ∧
      (p.retired (.quiet (n + 1))).length = k + 1 := by
  unfold RetiresAt
  rw [p.length_retired_quiet, (p.run (.quiet n)).retired_quiet_one.1]
  unfold finished
  cases (p.run (.quiet n)).core.latches.memWb with
  | none =>
    constructor
    · rintro ⟨-, retires⟩
      cases retires
    · rintro ⟨before, after⟩
      change (p.retired (.quiet n)).length + 0 = k + 1 at after
      omega
  | some w => simp

/-- If more than `k` instructions retire in some cycles, then the `k`-th of them does so in one of
these. -/
theorem exists_retiresAt {p : Pipeline ι δ σ} {k n : Nat}
    (more : k < (p.retired (.quiet n)).length) : ∃ m < n, p.RetiresAt k m := by
  induction n with
  | zero => cases more
  | succ n ih =>
    by_cases before : k < (p.retired (.quiet n)).length
    · obtain ⟨m, earlier, retires⟩ := ih before
      exact ⟨m, Nat.lt_succ_of_lt earlier, retires⟩
    · have most : (p.retired (.quiet (n + 1))).length ≤ (p.retired (.quiet n)).length + 1 := by
        rw [p.retired_quiet_add, (p.run (.quiet n)).retired_quiet_one.2, List.length_append]
        cases (p.run (.quiet n)).core.latches.memWb <;> simp
      exact ⟨n, Nat.lt_succ_self n, retiresAt_iff.mpr ⟨by omega, by omega⟩⟩

end Counts

/-! ## Waiting for the memory stage -/

/-- The units are those of the reference bank, and the instructions in flight know what the older
ones leave in the registers. -/
structure Regular (p : Pipeline Memory Memory ReferenceUnit) : Prop where
  units : ∃ operation csrs, p.bank.IsReference operation csrs
  informed : p.Informed

section Regular

variable {p : Pipeline Memory Memory ReferenceUnit}

theorem Regular.tick (h : p.Regular) (inputs : Inputs) : (p.tick inputs).next.Regular := by
  obtain ⟨⟨operation, csrs, units⟩, informed⟩ := h
  exact ⟨⟨operation, tick_isReference units inputs⟩, informed.tick inputs⟩

theorem Regular.turn (h : p.Regular) (blind : ∀ e ∈ p.core.latches.idEx, ¬ e.inst.readsCounter) :
    p.QuietTurn (p.tick {}).next (p.moved {}) := by
  obtain ⟨⟨operation, csrs, units⟩, informed⟩ := h
  exact tick_quiet units informed blind

/-- With nothing in the execute stage there is nothing to drain. -/
theorem Regular.drain_of_empty (h : p.Regular) (empty : p.outlook.idEx = none)
    (trapVector : Word) : p.outlook.drain trapVector = p.outlook := by
  obtain ⟨⟨operation, csrs, units⟩, -⟩ := h
  have execute : p.outlook.execute trapVector = (.idle, (p.outlook.bank.cycle none none).2) := by
    unfold Outlook.execute
    rw [empty]
  have bank : (p.outlook.bank.cycle none none).2.cleared SystemUnit.uncounted = p.outlook.bank :=
    (units.cycle_none_cleared SystemUnit.clears_uncounted).symm.trans units.uncounted_cycle_none
  unfold Outlook.drain
  simp only [execute, bank, ← empty]
  rfl

theorem owed_congr {a b : Pipeline Memory Memory ReferenceUnit}
    (same : a.core.latches.exMem = b.core.latches.exMem) (stores : a.stores = b.stores) :
    a.owed = b.owed := by
  have data : a.dmem = b.dmem := congrArg Stores.data stores
  unfold owed
  rw [same, data]

theorem blind_of_outlook {a b : Pipeline Memory Memory ReferenceUnit} (same : a.outlook = b.outlook)
    (blind : ∀ e ∈ b.core.latches.idEx, ¬ e.inst.readsCounter) :
    ∀ e ∈ a.core.latches.idEx, ¬ e.inst.readsCounter := by
  have idEx : a.core.latches.idEx = b.core.latches.idEx := congrArg Outlook.idEx same
  rw [idEx]
  exact blind

/-- In `n` cycles the memory stage is done with its instruction, and the outlook has made one
step. -/
structure StepsIn (p : Pipeline Memory Memory ReferenceUnit) (n : Nat) : Prop where
  regular : (p.run (.quiet n)).Regular
  finished : p.finished n = p.executed 0
  stores : (p.run (.quiet n)).stores = p.outlook.stores
  step : p.outlook.Step p.core.settings.trapVector p.core.settings.forwarding
    (p.run (.quiet n)).core.latches.exMem (p.run (.quiet n)).outlook

theorem Regular.stepsIn_one (h : p.Regular)
    (blind : ∀ e ∈ p.core.latches.idEx, ¬ e.inst.readsCounter) (last : p.owed ≤ 1) :
    p.StepsIn 1 := by
  cases h.turn blind with
  | waits _ more => omega
  | works _ passed stores step => exact ⟨h.tick {}, finished_of_works passed, stores, step⟩

/-- A step takes the cycles that the memory stage needs. The induction is over these: all but the
last keep the outlook. -/
theorem Regular.stepsIn (h : p.Regular)
    (blind : ∀ e ∈ p.core.latches.idEx, ¬ e.inst.readsCounter) : p.StepsIn (max 1 p.owed) := by
  induction owed : p.owed generalizing p with
  | zero => exact h.stepsIn_one blind (by omega)
  | succ n ih =>
    cases h.turn blind with
    | works last =>
      have one : max 1 (n + 1) = 1 := by omega
      rw [one]
      exact h.stepsIn_one blind last
    | waits left more nothing outlook kept =>
      obtain ⟨regular, finished, stores, step⟩ :=
        ih (h.tick {}) (blind_of_outlook outlook blind) (by omega)
      have rest : max 1 (n + 1) = 1 + max 1 n := by omega
      have begins : p.run (.quiet (1 + max 1 n)) = (p.tick {}).next.run (.quiet (max 1 n)) :=
        p.run_quiet_add 1 _
      rw [outlook] at stores step
      rw [rest]
      refine ⟨begins ▸ regular, ?_, begins ▸ stores, begins ▸ step⟩
      calc p.finished (1 + max 1 n)
        _ = (p.retired (.quiet 1)).length + (p.tick {}).next.executed 0 := by
          rw [p.finished_add, ← finished]
          rfl
        _ = p.executed 1 := (p.executed_add 1 0).symm
        _ = p.executed 0 := executed_of_waits nothing kept

end Regular

/-- The pipeline `a`, which forwards, and, `slack` cycles later, the pipeline `b`, which does not:
they go the same way, and `a` is done with its memory stage no later than `b`. -/
structure Leads (slack : Nat) (a b : Pipeline Memory Memory ReferenceUnit) : Prop where
  fast : a.Regular
  slow : b.Regular
  forwards : a.core.settings.forwarding = true
  interlocks : b.core.settings.forwarding = false
  vector : a.core.settings.trapVector = b.core.settings.trapVector
  owed : a.owed ≤ slack + b.owed
  /-- Decode may have done already in `a` what it waits for in `b`. -/
  outlook : a.outlook = b.outlook ∨ b.outlook.idEx = none ∧ a.outlook = b.outlook.issue

namespace Leads

variable {slack : Nat} {a b : Pipeline Memory Memory ReferenceUnit}

/-- A cycle of the slower pipeline is matched by cycles of the faster one in which execute hands on
as much. The cases are those of the cycle; when it makes a step from the same outlook, the faster
pipeline first waits for its memory stage. -/
theorem step (h : Leads slack a b) (blind : ∀ e ∈ b.core.latches.idEx, ¬ e.inst.readsCounter) :
    ∃ n ≤ slack + 1, Leads (slack + 1 - n) (a.run (.quiet n)) (b.tick {}).next ∧
      a.executed n + b.executed 0 = b.executed 1 + a.executed 0 := by
  obtain ⟨fast, slow, forwards, interlocks, vector, owed, outlook⟩ := h
  cases slow.turn blind with
  | waits left more nothing same kept =>
    refine ⟨0, Nat.zero_le _, ⟨fast, slow.tick {}, forwards, interlocks, vector, ?_, ?_⟩, ?_⟩
    · change a.owed ≤ slack + 1 + _
      omega
    · rw [same]
      exact outlook
    · rw [executed_of_waits nothing kept]
      omega
  | works last passed stores goes =>
    rw [interlocks] at goes
    have handed : b.executed 1 =
        b.executed 0 + (b.tick {}).next.core.latches.exMem.toList.length := by
      rw [← finished_of_works passed]
      rfl
    rcases outlook with abreast | ⟨empty, ahead⟩
    · obtain ⟨fast, finished, stores', goes'⟩ := fast.stepsIn (blind_of_outlook abreast blind)
      rw [forwards, vector, abreast] at goes'
      obtain ⟨same, outlooks⟩ := goes'.compare goes
      have due : (a.run (.quiet (max 1 a.owed))).owed = (b.tick {}).next.owed :=
        owed_congr same (by rw [stores', abreast, stores])
      refine ⟨max 1 a.owed, by omega, ⟨fast, slow.tick {}, ?_, interlocks, ?_, ?_, outlooks⟩, ?_⟩
      · rw [settings_run, forwards]
      · rw [settings_run]
        exact vector
      · rw [due]
        exact Nat.le_add_left ..
      · have executed : a.executed (max 1 a.owed) =
            a.executed 0 + (b.tick {}).next.core.latches.exMem.toList.length := by
          rw [← finished, ← same]
          rfl
        omega
    · obtain ⟨nothing, outlooks⟩ := goes.of_empty empty (slow.drain_of_empty empty _)
      refine ⟨0, Nat.zero_le _, ⟨fast, slow.tick {}, forwards, interlocks, vector, ?_, ?_⟩, ?_⟩
      · change a.owed ≤ slack + 1 + _
        omega
      · rcases outlooks with same | issued
        · rw [same]
          exact .inr ⟨empty, ahead⟩
        · rw [issued]
          exact .inl ahead
      · rw [handed, nothing]
        exact Nat.add_comm ..

/-- At every time of the slower pipeline the faster one has been there. -/
theorem run (h : Leads 0 a b) (even : a.executed 0 = b.executed 0)
    (blind : ∀ n, ∀ e ∈ (b.run (.quiet n)).core.latches.idEx, ¬ e.inst.readsCounter) (n : Nat) :
    ∃ m ≤ n, Leads (n - m) (a.run (.quiet m)) (b.run (.quiet n)) ∧
      a.executed m = b.executed n := by
  induction n with
  | zero => exact ⟨0, Nat.le_refl 0, h, even⟩
  | succ n ih =>
    obtain ⟨m, earlier, leads, level⟩ := ih
    obtain ⟨k, most, leads', handed⟩ := leads.step (blind n)
    have slack : n + 1 - (m + k) = n - m + 1 - k := by omega
    refine ⟨m + k, by omega, ?_, ?_⟩
    · rw [slack, a.run_quiet_add, b.run_quiet_add]
      exact leads'
    · have start := a.executed_add m 0
      have start' := b.executed_add n 0
      rw [a.executed_add, b.executed_add]
      rw [Nat.add_zero] at start start'
      omega

/-- What the slower memory stage is done with the faster one has been done with. -/
theorem finished_le {m n : Nat} (earlier : m ≤ n)
    (h : Leads (n - m) (a.run (.quiet m)) (b.run (.quiet n)))
    (level : a.executed m = b.executed n)
    (blind : ∀ e ∈ (a.run (.quiet m)).core.latches.idEx, ¬ e.inst.readsCounter) :
    b.finished n ≤ a.finished n := by
  have same : a.finished m + (a.run (.quiet m)).core.latches.exMem.toList.length =
      b.finished n + (b.run (.quiet n)).core.latches.exMem.toList.length := level
  have later := a.finished_mono earlier
  have owed := h.owed
  cases entry : (a.run (.quiet m)).core.latches.exMem with
  | none =>
    rw [entry] at same
    change a.finished m + 0 = _ at same
    omega
  | some x =>
    cases entry' : (b.run (.quiet n)).core.latches.exMem with
    | some y =>
      rw [entry, entry'] at same
      change a.finished m + 1 = b.finished n + 1 at same
      omega
    | none =>
      -- The faster pipeline has had the time that its memory stage needs.
      have due : 1 ≤ (a.run (.quiet m)).owed := by
        unfold Pipeline.owed
        rw [entry]
        exact x.due_pos _
      have soon : (b.run (.quiet n)).owed = 0 := by
        unfold Pipeline.owed
        rw [entry']
        rfl
      have done := (h.fast.stepsIn blind).finished
      have time : m + max 1 (a.run (.quiet m)).owed ≤ n := by omega
      calc b.finished n
        _ = b.executed n := by
          unfold executed
          rw [entry']
          rfl
        _ = (a.retired (.quiet m)).length + (a.run (.quiet m)).executed 0 := by
          rw [← level, ← a.executed_add m 0]
          rfl
        _ = a.finished (m + max 1 (a.run (.quiet m)).owed) := by rw [a.finished_add, done]
        _ ≤ a.finished n := a.finished_mono time

end Leads

end Pipeline

/-- The machine does not know of forwarding. -/
theorem Machine.run_forwarding (m : Machine) (settings : PipelineSettings) (forwarding : Bool)
    (moves : List Move) : m.run { settings with forwarding } moves = m.run settings moves := by
  have same (m : Machine) (move : Move) :
      m.step { settings with forwarding } move = m.step settings move := by
    cases move <;> rfl
  induction moves generalizing m with
  | nil => rfl
  | cons move rest ih => rw [run_cons, run_cons, same, ih]

namespace Setup

/-- The setup with forwarding on or off. -/
def withForwarding (s : Setup) (forwarding : Bool) : Setup :=
  { s with config := { s.config with pipeline := { s.config.pipeline with forwarding } } }

/-- What the machine does not read, the pipeline does not read either. -/
theorem not_readsCounter (s : Setup) (blind : s.machine.Blind s.settings) (forwarding : Bool)
    (n : Nat) :
    ∀ e ∈ ((s.withForwarding forwarding).pipeline.run (.quiet n)).core.latches.idEx,
      ¬ e.inst.readsCounter := by
  have blind' : s.machine.Blind (s.withForwarding forwarding).settings := by
    intro k
    have same := s.machine.run_forwarding s.settings forwarding (List.replicate k .execute)
    exact same ▸ blind k
  have quiet : ∀ inputs ∈ Schedule.quiet n, inputs.interrupt = false := by
    intro inputs member
    rw [List.eq_of_mem_replicate member]
  obtain ⟨k, -, sim⟩ := (s.withForwarding forwarding).simulates.exists_run blind' quiet
  refine sim.blind ?_
  rw [Pipeline.settings_run]
  exact blind'.run k

theorem leads (s : Setup) :
    Pipeline.Leads 0 (s.withForwarding true).pipeline (s.withForwarding false).pipeline := by
  have regular (forwarding : Bool) : (s.withForwarding forwarding).pipeline.Regular := by
    have empty : (s.withForwarding forwarding).pipeline.core.latches = {} := rfl
    refine
      ⟨⟨s.operation, {}, Bank.isReference_reference ..⟩, fun x member => ?_, fun e member => ?_⟩
    · rw [empty] at member
      cases member
    · rw [empty] at member
      cases member
  exact ⟨regular true, regular false, rfl, rfl, rfl, Nat.le_refl 0, .inl rfl⟩

/-- Forwarding never makes a program slower: an instruction that retires in some cycle without it
retires by then with it, whatever the latencies of the memories and the coprocessors. -/
theorem forwarding_not_slower (s : Setup) (blind : s.machine.Blind s.settings) {k n : Nat}
    (retires : (s.withForwarding false).pipeline.RetiresAt k n) :
    ∃ m ≤ n, (s.withForwarding true).pipeline.RetiresAt k m := by
  have ahead : (s.withForwarding false).pipeline.finished n ≤
      (s.withForwarding true).pipeline.finished n := by
    obtain ⟨m, earlier, leads, level⟩ := s.leads.run rfl (s.not_readsCounter blind false) n
    exact leads.finished_le earlier level (s.not_readsCounter blind true m)
  obtain ⟨-, slow⟩ := Pipeline.retiresAt_iff.mp retires
  have fast : k < ((s.withForwarding true).pipeline.retired (.quiet (n + 1))).length := by
    rw [Pipeline.length_retired_quiet] at slow ⊢
    omega
  obtain ⟨m, earlier, retires'⟩ := Pipeline.exists_retiresAt fast
  exact ⟨m, Nat.le_of_lt_succ earlier, retires'⟩

/-- Each increment waits for the one before it if nothing is forwarded. -/
theorem forwarding_not_slower_counting :
    (counting.withForwarding false).pipeline.RetiresAt 2 11 ∧
      ∃ m ≤ 11, (counting.withForwarding true).pipeline.RetiresAt 2 m := by
  have blind := Machine.blind_of_words (m := counting.machine) counting.settings (by decide)
  have retires : (counting.withForwarding false).pipeline.RetiresAt 2 11 := by decide +kernel
  exact ⟨retires, counting.forwarding_not_slower blind retires⟩

/-- With forwarding the third increment retires two cycles earlier. -/
example : (counting.withForwarding true).pipeline.RetiresAt 2 9 := by decide +kernel

end Setup

end FiveStage
