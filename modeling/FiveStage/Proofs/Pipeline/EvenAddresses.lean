import FiveStage.Memory.Recorded
import FiveStage.Proofs.Pipeline.Passages
import FiveStage.Proofs.Pipeline.Stay
import FiveStage.Proofs.Pipeline.Traffic

/-!
# Even addresses

Whatever words the instruction port answers with, and whatever they compute, no address that the
pipeline fetches from is odd. The offsets of branches and jumps are even, an indirect jump clears
the lowest bit, and a configuration that passes its checks has aligned vectors; all other addresses
come from these by steps of four.
-/

namespace FiveStage

/-! ## Even words -/

/-- The lowest bit is clear. -/
def Word.IsEven (w : Word) : Prop :=
  w.getLsbD 0 = false

instance (w : Word) : Decidable w.IsEven :=
  inferInstanceAs (Decidable (_ = _))

namespace Word

variable {v w : Word}

theorem isEven_iff : w.IsEven ↔ w.toNat % 2 = 0 := by
  unfold IsEven BitVec.getLsbD
  rw [Nat.testBit_zero, decide_eq_false_iff_not]
  omega

theorem IsEven.add (left : v.IsEven) (right : w.IsEven) : (v + w).IsEven := by
  rw [isEven_iff] at *
  rw [BitVec.toNat_add]
  omega

theorem IsEven.of_isAligned (aligned : w.isAligned = true) : w.IsEven := by
  have multiple : w.toNat % 4 = 0 := by simpa [isAligned] using aligned
  rw [isEven_iff]
  omega

end Word

namespace Instruction

variable (inst : Instruction)

theorem isEven_immediateB : inst.immediateB.IsEven := by
  unfold Word.IsEven immediateB
  rw [BitVec.getLsbD_signExtend, BitVec.getLsbD_append]
  rfl

theorem isEven_immediateJ : inst.immediateJ.IsEven := by
  unfold Word.IsEven immediateJ
  rw [BitVec.getLsbD_signExtend, BitVec.getLsbD_append]
  rfl

theorem isEven_jalrTarget (base : Word) : (inst.jalrTarget base).IsEven := by
  unfold Word.IsEven jalrTarget
  rw [BitVec.getLsbD_and]
  exact Bool.and_false _

end Instruction

/-- An instruction goes on at an even address if it is at one, whatever its operands are. -/
theorem IdEx.isEven_target {e : IdEx} (even : e.pc.IsEven) : e.target.IsEven := by
  unfold IdEx.target
  cases e.select with
  | sequential => exact even.add rfl
  | branch => exact even.add e.inst.isEven_immediateB
  | jal => exact even.add e.inst.isEven_immediateJ
  | jalr => exact e.inst.isEven_jalrTarget e.rv1

/-- The vectors and the reset address of a configuration that passes its checks. -/
theorem Configuration.isEven_addresses {config : Configuration} (valid : config.validate = .ok ()) :
    config.pipeline.resetPc.IsEven ∧ config.pipeline.trapVector.IsEven ∧
      config.pipeline.interruptVector.IsEven := by
  have aligned := (validate_eq_ok_iff.mp valid).aligned
  exact ⟨.of_isAligned (aligned _ _ (.head _)), .of_isAligned (aligned _ _ (.tail _ (.head _))),
    .of_isAligned (aligned _ _ (.tail _ (.tail _ (.head _))))⟩

/-! ## Words on their way -/

/-- The words in the latches, the oldest first. -/
def Latches.words (l : Latches) : List IfId :=
  (l.memWb.map (·.word)).toList ++ (l.exMem.map (·.word)).toList ++
    (l.idEx.map (·.word)).toList ++ l.ifId.toList

theorem Latches.words_passages (l : Latches) : l.passages.map (·.word) = l.words := by
  simp [passages, words, Passage.waiting, Function.comp_def]

/-- An instruction that traps is recorded with its own address. -/
theorem ExecuteOutcome.trap_resolve {e : IdEx} {out : DispatchOutputs} {trapVector : Word}
    {trap : Trap} (raised : (resolve e out trapVector).trap? = some trap) : trap.pc = e.pc := by
  unfold resolve at raised
  split at raised
  · split at raised
    · cases raised
    · split at raised
      · cases raised
        rfl
      · split at raised <;> cases raised
  · cases raised

theorem executeStage_trap {σ : Type} [Coprocessor σ] {asked : Interlock} {trapVector : Word}
    {entry : Option IdEx} {d : Dispatcher} {bank : Bank σ} {trap : Trap}
    (raised : (executeStage asked trapVector entry d bank).1.trap? = some trap) :
    ∃ e ∈ entry, trap.pc = e.pc := by
  unfold executeStage at raised
  dsimp only at raised
  cases kept : entry.filter fun _ => !asked.flushed .execute with
  | none =>
    rw [kept] at raised
    cases raised
  | some e =>
    rw [kept] at raised
    refine ⟨e, (Option.filter_eq_some_iff.mp kept).1, ?_⟩
    dsimp only at raised
    split at raised
    · cases raised
    · exact ExecuteOutcome.trap_resolve raised

/-- Execution resumes after an interrupt at an instruction that is on its way, or at the one that is
fetched next. -/
theorem Core.resumePc_cases (p : Core) :
    p.resumePc = p.pc ∨ ∃ f ∈ p.latches.words, p.resumePc = f.pc := by
  unfold resumePc Latches.oldestPc? Latches.words
  cases p.latches.exMem with
  | some x => exact .inr ⟨x.word, by simp, rfl⟩
  | none =>
    cases p.latches.idEx with
    | some e => exact .inr ⟨e.word, by simp, rfl⟩
    | none =>
      cases p.latches.ifId with
      | some f => exact .inr ⟨f, by simp, rfl⟩
      | none => exact .inl rfl

namespace Pipeline

variable {ι δ σ : Type} [MemoryPort ι] [MemoryPort δ] [Coprocessor σ]

/-- What a cycle retires or leaves in a latch was in a latch before, or is the word that it
fetches. -/
theorem tick_words (p : Pipeline ι δ σ) (inputs : Inputs) {f : IfId}
    (after : f ∈ (p.tick inputs).report.retired.toList.map (·.word) ++
      (p.tick inputs).next.core.latches.words) :
    f ∈ p.core.latches.words ∨ p.accepted inputs = some f := by
  -- Of the passages of a cycle only the words matter, not how far they are.
  have book := congrArg (List.map (·.word)) (p.tick_passages inputs)
  have departed (l : List MemWb) : (Passage.departed l).map (·.word) = l.map (·.word) := by
    simp [Passage.departed, Function.comp_def]
  have entered (word : Option IfId) :
      (Passage.waiting .decode word).map (·.word) = word.toList := by
    simp [Passage.waiting, Function.comp_def]
  rw [List.map_append, List.map_append, departed, Latches.words_passages, entered] at book
  rw [← book] at after
  rcases List.mem_append.mp after with survives | fetched
  · obtain ⟨g, alive, rfl⟩ := List.mem_map.mp survives
    obtain ⟨earlier, member, rfl⟩ := List.mem_map.mp (List.mem_filter.mp alive).1
    rw [Passage.next_word, ← Latches.words_passages]
    exact .inl (List.mem_map.mpr ⟨earlier, member, rfl⟩)
  · exact .inr (Option.mem_toList.mp fetched)

/-- A trap is recorded at the address of an instruction that is on its way, or at the one that is
fetched next. -/
theorem tick_trap (p : Pipeline ι δ σ) (inputs : Inputs) {trap : Trap}
    (taken : (p.tick inputs).report.trap = some trap) :
    trap.pc = p.core.pc ∨ ∃ f ∈ p.core.latches.words, trap.pc = f.pc := by
  have signals := Option.or_eq_some_iff.mp taken
  rcases signals with raised | ⟨-, interrupt⟩
  · obtain ⟨e, entry, same⟩ := executeStage_trap raised
    exact .inr ⟨e.word, by simp_all [Latches.words], same⟩
  · have requested : p.core.interrupt? inputs = some trap := interrupt
    unfold Core.interrupt? at requested
    split at requested
    · cases requested
      exact p.core.resumePc_cases
    · cases requested

end Pipeline

/-! ## Even states -/

/-- The instruction that retired in a cycle, and the trap that it took, are at even addresses. -/
structure Report.IsEven (r : Report) : Prop where
  retired : ∀ w ∈ r.retired, w.pc.IsEven
  trap : ∀ trap ∈ r.trap, trap.pc.IsEven

namespace Pipeline

variable {ι δ σ : Type} [MemoryPort ι] [MemoryPort δ] [Coprocessor σ]

/-- Every address of the pipeline is even, and so is every one that it has presented to the
instruction port. -/
structure IsEven (p : Pipeline (RecordedPort ι) δ σ) : Prop where
  pc : p.core.pc.IsEven
  latches : ∀ f ∈ p.core.latches.words, f.pc.IsEven
  trapVector : p.core.settings.trapVector.IsEven
  interruptVector : p.core.settings.interruptVector.IsEven
  requests : ∀ request ∈ p.imem.requests, request.address.IsEven
  lastTrap : ∀ trap ∈ p.core.lastTrap, trap.pc.IsEven

omit [MemoryPort ι] [MemoryPort δ] [Coprocessor σ] in
theorem isEven_create {config : Configuration} (valid : config.validate = .ok ()) (imem : ι)
    (dmem : δ) (bank : Bank σ) :
    (create config ({ port := imem } : RecordedPort ι) dmem bank).IsEven := by
  obtain ⟨reset, trap, interrupt⟩ := Configuration.isEven_addresses valid
  exact ⟨reset, nofun, trap, interrupt, nofun, nofun⟩

namespace IsEven

variable {p : Pipeline (RecordedPort ι) δ σ} (h : p.IsEven) (inputs : Inputs)
include h

theorem pcAfter : (p.tick inputs).report.pcAfter.IsEven := by
  cases p.tick_turn inputs with
  | fetch _ _ _ pc =>
    rw [pc]
    exact h.pc.add rfl
  | stall _ _ _ pc =>
    rw [pc]
    exact h.pc
  | @branch f e decoding _ entry _ _ _ pc =>
    have even : e.pc.IsEven := by
      rw [entry.1]
      exact h.latches f (by simp [Latches.words, decoding])
    rw [pc]
    exact e.isEven_target even
  | exception _ _ pc =>
    rw [pc]
    exact h.trapVector
  | interrupt _ _ pc =>
    rw [pc]
    exact h.interruptVector

theorem words {f : IfId} (after : f ∈ (p.tick inputs).report.retired.toList.map (·.word) ++
    (p.tick inputs).next.core.latches.words) : f.pc.IsEven := by
  rcases p.tick_words inputs after with before | fetched
  · exact h.latches f before
  · rw [(p.accepted_answer inputs fetched).1]
    exact h.pc

theorem report : (p.tick inputs).report.IsEven where
  retired w retired := by
    refine h.words inputs (f := w.word) (List.mem_append_left _ ?_)
    exact List.mem_map_of_mem (Option.mem_toList.mpr retired)
  trap trap taken := by
    rcases p.tick_trap inputs taken with next | ⟨f, member, same⟩
    · rw [next]
      exact h.pc
    · rw [same]
      exact h.latches f member

theorem requested {request : MemoryRequest}
    (presented : request ∈ (p.tick inputs).next.imem.requests) : request.address.IsEven := by
  have fresh (later : request ∈ (MemoryPort.access p.imem (.read p.core.pc)).2.requests) :
      request.address.IsEven := by
    unfold RecordedPort.requests at later
    rw [p.imem.accesses_access, List.map_append] at later
    rcases List.mem_append.mp later with earlier | last
    · exact h.requests request earlier
    · obtain rfl := List.mem_singleton.mp last
      exact h.pc
  cases p.tick_fetchTurn inputs with
  | redirected _ port | held port =>
    rw [port] at presented
    exact h.requests request presented
  | waits _ port | answered _ port =>
    rw [port] at presented
    exact fresh presented

theorem tick : (p.tick inputs).next.IsEven where
  pc := h.pcAfter inputs
  latches _ held := h.words inputs (List.mem_append_right _ held)
  trapVector := h.trapVector
  interruptVector := h.interruptVector
  requests _ presented := h.requested inputs presented
  lastTrap trap last := by
    rcases Option.or_eq_some_iff.mp last with taken | ⟨-, earlier⟩
    · exact (h.report inputs).trap trap taken
    · exact h.lastTrap trap earlier

omit inputs in
theorem run (schedule : Schedule) : (p.run schedule).IsEven :=
  run_invariant IsEven h schedule fun _ inputs _ earlier => earlier.tick inputs

omit inputs in
theorem reports (schedule : Schedule) : ∀ r ∈ p.reports schedule, r.IsEven := by
  induction schedule generalizing p with
  | nil => exact fun _ member => absurd member List.not_mem_nil
  | cons inputs rest ih =>
    rw [reports_cons, List.forall_mem_cons]
    exact ⟨h.report inputs, ih (h.tick inputs)⟩

end IsEven

/-- Nothing is ever at an odd address. In every state that the pipeline reaches after reset with a
configuration that passes its checks, whatever the ports, the coprocessors and the environment do,
the program counter is even, and so are the addresses of the instructions in the latches, those
that were presented to the instruction port, and those of the instructions that have retired and of
the traps that were taken. -/
theorem addresses_even {config : Configuration} (valid : config.validate = .ok ()) (imem : ι)
    (dmem : δ) (bank : Bank σ) (schedule : Schedule) :
    let p := create config ({ port := imem } : RecordedPort ι) dmem bank
    (p.run schedule).IsEven ∧ ∀ r ∈ p.reports schedule, r.IsEven := by
  intro p
  have start : p.IsEven := isEven_create valid imem dmem bank
  exact ⟨start.run schedule, start.reports schedule⟩

/-- So if an indirect jump is given an odd address. -/
theorem addresses_even_odd_target :
    let memory := (Memory.create 4 1).write 0 0x0070_0067 0xF
    let p := create {} ({ port := memory } : RecordedPort Memory) memory
      (Bank.reference (.const 1))
    ({} : Configuration).validate = .ok () ∧ (p.run (.quiet 2)).core.pc = 6 ∧
      (p.run (.quiet 2)).IsEven ∧ ∀ r ∈ p.reports (.quiet 2), r.IsEven := by
  intro memory p
  have valid : ({} : Configuration).validate = .ok () := rfl
  exact ⟨valid, by decide +kernel, addresses_even valid memory memory _ (.quiet 2)⟩

end Pipeline

end FiveStage
