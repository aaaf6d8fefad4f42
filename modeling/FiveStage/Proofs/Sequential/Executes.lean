import FiveStage.Proofs.Coprocessor.ReferenceBank
import FiveStage.Proofs.Sequential.Stages

/-!
# Execution without traps

Some steps of the sequential machine in a row, none of which takes a trap, with what they commit;
and the single step in which an instruction that execute is done with is committed.
-/

namespace FiveStage

namespace Machine

/-- The machine executes from one state to another, commits the list, and takes no trap. -/
inductive Executes (settings : PipelineSettings) : Machine → List Commit → Machine → Prop where
  | refl (m : Machine) : Executes settings m [] m
  | skip {m next last : Machine} {commits : List Commit}
      (step : m.execute settings = .skipped next) (rest : Executes settings next commits last) :
      Executes settings m commits last
  | commit {m next last : Machine} {done : Commit} {commits : List Commit}
      (step : m.execute settings = .committed done next)
      (rest : Executes settings next commits last) :
      Executes settings m (done :: commits) last

namespace Executes

variable {settings : PipelineSettings} {m n last : Machine} {commits more : List Commit}

theorem trans (first : Executes settings m commits n) (rest : Executes settings n more last) :
    Executes settings m (commits ++ more) last := by
  induction first with
  | refl m => exact rest
  | skip step _ ih => exact .skip step (ih rest)
  | commit step _ ih => exact .commit step (ih rest)

/-- Execution is a run of the machine with nothing but executing moves. -/
theorem exists_run (h : Executes settings m commits n) :
    ∃ k, m.run settings (List.replicate k .execute) = n ∧
      m.commits settings (List.replicate k .execute) = commits := by
  induction h with
  | refl m => exact ⟨0, rfl, rfl⟩
  | @skip m next last commits step _ ih =>
    obtain ⟨k, run, done⟩ := ih
    refine ⟨k + 1, ?_, ?_⟩
    · rw [List.replicate_succ, run_cons, Machine.step, step]
      exact run
    · rw [List.replicate_succ, Machine.commits, Machine.step, step]
      exact done
  | @commit m next last c commits step _ ih =>
    obtain ⟨k, run, done⟩ := ih
    refine ⟨k + 1, ?_, ?_⟩
    · rw [List.replicate_succ, run_cons, Machine.step, step]
      exact run
    · rw [List.replicate_succ, Machine.commits, Machine.step, step]
      exact congrArg (c :: ·) done

end Executes

/-! ## Committed instructions -/

theorem offload_eq_answer (m : Machine) (slot : Slot) (req : Offload) :
    m.offload slot req = Bank.answer m.operation m.csrs slot req := by
  cases slot <;> rfl

/-- The machine executes its next instruction by committing what execute left of it in `x`. The
control and status registers are `csrs` after that. -/
structure Completes (settings : PipelineSettings) (m : Machine) (x : ExMem)
    (csrs : SystemUnit) : Prop where
  pc : x.pc = m.pc
  inst : x.inst = m.fetched
  rd : x.rd = m.fetched.rd.toNat
  csrs_eq : m.fetched.slot? ≠ some .cp0 → csrs = m.csrs
  step : m.execute settings = .committed (x.finish m.data).1.commit (m.after x csrs)

namespace Completes

variable {settings : PipelineSettings} {m : Machine}

theorem of_integer (recognised : m.fetched.isUnrecognised = false)
    (integer : m.fetched.slot? = none) :
    m.Completes settings m.issued.integerResult m.csrs where
  pc := rfl
  inst := rfl
  rd := rfl
  csrs_eq _ := rfl
  step := (execute_of_integer recognised integer settings).trans m.executeInteger_eq

theorem of_slot {slot : Slot} (owned : m.fetched.slot? = some slot)
    (quiet : (Bank.answer m.operation m.csrs slot m.issued.request).1.exception = false) :
    m.Completes settings
      (m.issued.offloadResult slot (Bank.answer m.operation m.csrs slot m.issued.request).1.data)
      (Bank.answer m.operation m.csrs slot m.issued.request).2 where
  pc := rfl
  inst := rfl
  rd := rfl
  csrs_eq other := Bank.answer_of_ne (fun same => other (same ▸ owned)) ..
  step := by
    rw [← offload_eq_answer] at quiet ⊢
    exact (execute_of_slot owned settings).trans (executeOffload_eq owned settings quiet)

variable {x : ExMem} {csrs : SystemUnit}

theorem small (h : m.Completes settings x csrs) : x.rd < 32 :=
  h.rd ▸ m.fetched.rd.isLt

theorem executes (h : m.Completes settings x csrs) :
    m.Executes settings [(x.finish m.data).1.commit] (m.after x csrs) :=
  .commit h.step (.refl _)

end Completes

/-- An instruction whose coprocessor raises the exception line is trapped. -/
theorem execute_of_exception {m : Machine} {slot : Slot} (owned : m.fetched.slot? = some slot)
    (settings : PipelineSettings)
    (raised : (Bank.answer m.operation m.csrs slot m.issued.request).1.exception = true) :
    m.execute settings =
      m.takeTrap { cause := .coprocessorException slot m.fetched, pc := m.pc }
        settings.trapVector := by
  rw [← offload_eq_answer] at raised
  exact (execute_of_slot owned settings).trans (executeOffload_of_exception settings raised)

/-! ## What a step can do -/

/-- A step skips a word, commits what execute left of an instruction, or takes a trap. -/
theorem execute_cases (m : Machine) (settings : PipelineSettings) :
    m.execute settings = .skipped { m with pc := m.pc + 4 } ∨
      (∃ x csrs, m.Completes settings x csrs) ∨
      ∃ trap, m.execute settings = m.takeTrap trap settings.trapVector := by
  by_cases empty : m.fetched.isUnrecognised = true
  · exact .inl (execute_of_unrecognised empty settings)
  · rw [Bool.not_eq_true] at empty
    cases owned : m.fetched.slot? with
    | none => exact .inr (.inl ⟨_, _, .of_integer empty owned⟩)
    | some slot =>
      cases raised : (Bank.answer m.operation m.csrs slot m.issued.request).1.exception with
      | true => exact .inr (.inr ⟨_, execute_of_exception owned settings raised⟩)
      | false => exact .inr (.inl ⟨_, _, .of_slot owned raised⟩)

/-- Skipping a word moves the program counter only. -/
theorem eq_of_skipped {m next : Machine} {settings : PipelineSettings}
    (step : m.execute settings = .skipped next) : next = { m with pc := m.pc + 4 } := by
  rcases m.execute_cases settings with skipped | ⟨x, csrs, completes⟩ | ⟨trap, taken⟩
  · cases step.symm.trans skipped
    rfl
  · cases step.symm.trans completes.step
  · cases step.symm.trans taken

/-- A trap leaves registers and memories alone. -/
theorem eq_of_trapped {m next : Machine} {settings : PipelineSettings} {trap : Trap}
    (step : m.execute settings = .trapped trap next) :
    next = { m with
      pc := settings.trapVector, csrs := m.csrs.trapTaken trap, lastTrap := some trap } := by
  rcases m.execute_cases settings with skipped | ⟨x, csrs, completes⟩ | ⟨trap', taken⟩
  · cases step.symm.trans skipped
  · cases step.symm.trans completes.step
  · cases step.symm.trans taken
    rfl

/-- Stores go to the data memory, so the code stays as it is, and so does what CP1 computes. -/
theorem step_fixed (m : Machine) (settings : PipelineSettings) (move : Move) :
    (m.step settings move).next.code = m.code ∧
      (m.step settings move).next.operation = m.operation := by
  cases move with
  | interrupt => exact ⟨rfl, rfl⟩
  | execute =>
    rcases m.execute_cases settings with skipped | ⟨x, csrs, completes⟩ | ⟨trap, taken⟩
    · rw [step, skipped]
      exact ⟨rfl, rfl⟩
    · rw [step, completes.step]
      exact ⟨rfl, rfl⟩
    · rw [step, taken]
      exact ⟨rfl, rfl⟩

theorem run_fixed (m : Machine) (settings : PipelineSettings) (moves : List Move) :
    (m.run settings moves).code = m.code ∧ (m.run settings moves).operation = m.operation := by
  induction moves generalizing m with
  | nil => exact ⟨rfl, rfl⟩
  | cons move moves ih =>
    obtain ⟨code, operation⟩ := m.step_fixed settings move
    obtain ⟨code', operation'⟩ := ih (m.step settings move).next
    exact ⟨code'.trans code, operation'.trans operation⟩

theorem Executes.operation_eq {settings : PipelineSettings} {m n : Machine} {commits : List Commit}
    (h : Executes settings m commits n) : n.operation = m.operation := by
  obtain ⟨k, rfl, -⟩ := h.exists_run
  exact (m.run_fixed settings _).2

/-- Execution that commits nothing moves the program counter only. -/
theorem Executes.eq_of_nil {settings : PipelineSettings} {m n : Machine}
    (h : Executes settings m [] n) : n = { m with pc := n.pc } := by
  generalize nothing : ([] : List Commit) = commits at h
  induction h with
  | refl m => rfl
  | @skip m next last commits step _ ih =>
    have moved := eq_of_skipped step
    rw [ih nothing, moved]
  | commit step _ _ => cases nothing

end Machine

end FiveStage
