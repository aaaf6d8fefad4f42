import FiveStage.Pipeline.Schedule
import FiveStage.Proofs.Pipeline.ClockEdge
import FiveStage.Proofs.Pipeline.Operands

/-!
# One cause a cycle

An interlock can gather any stalls and flushes, and yet a cycle is one of three things: it fetches a
word, or it stalls for a single cause, or a flush with a single cause redirects it. Only a stall of
the environment and an interrupt may meet. `Turn` lists the ways in which a cycle can be reported
and `tick_turn` says that there is no other, so the cycles of a run are the fetches, the stalls and
the flushes together.
-/

namespace FiveStage

namespace Interlock

/-- The causes of a stall, each with the oldest stage that it holds. -/
def stallCauses : List (StallReason × Stage) :=
  [(.externalStall, .writeback), (.memoryNotReady, .memory), (.coprocessorNotReady, .execute),
    (.loadUseHazard, .decode), (.rawHazard, .decode), (.memoryNotReady, .fetch)]

/-- The causes of a flush, each with the oldest stage that it empties. -/
def flushCauses : List (FlushReason × Stage) :=
  [(.branchMispredict, .fetch), (.exception, .execute), (.interrupt, .memory)]

theorem fate_stall (reason : StallReason) (point stage : Stage) :
    (({} : Interlock).stall reason point).fate stage =
      if stage ≤ point then .hold else .advance := by
  cases stage <;> cases point <;> rfl

end Interlock

/-! ## What the stages may ask for -/

/-- Decode waits for one of two reasons. -/
theorem DecodeOutcome.cause_of_wait {d : DecodeOutcome} {reason : StallReason}
    (wait : d.apply {} = ({} : Interlock).stall reason .decode) :
    (reason, Stage.decode) ∈ Interlock.stallCauses := by
  have stalls := congrArg Interlock.stalls wait
  cases d with
  | loadUse e hazards register => cases reason <;> first | decide | cases stalls
  | rawHazard e hazards => cases reason <;> first | decide | cases stalls
  | issued e hazards operands redirect =>
    cases redirect <;> cases congrArg Interlock.stallPoint wait
  | _ => cases congrArg Interlock.stallPoint wait

/-- Decode redirects fetch to where the instruction that it issues goes on. -/
theorem decodeStage_redirect {forwarding : Bool} {ifId : Option IfId} {regs : RegisterFile}
    {ex mem : Producer} {target : Word}
    (leave : (decodeStage {} forwarding ifId regs ex mem).apply {} =
      ({} : Interlock).flush .branchMispredict .fetch target) :
    ∃ f e, ifId = some f ∧ (decodeStage {} forwarding ifId regs ex mem).latched? = some e ∧
      (e.pc = f.pc ∧ e.inst = f.inst) ∧ e.select.redirects = true ∧ e.target = target := by
  cases ifId with
  | none => cases congrArg Interlock.redirect leave
  | some f =>
    change (f.decode forwarding regs ex mem).apply {} = _ at leave
    change ∃ f' e, some f = some f' ∧ (f.decode forwarding regs ex mem).latched? = some e ∧ _
    rcases f.decode_cases forwarding regs ex mem with
      ⟨-, dropped⟩ | ⟨reason, wait⟩ | ⟨-, e, hazards, operands, entry, -, issued⟩
    · rw [dropped] at leave
      cases congrArg Interlock.redirect leave
    · rw [wait] at leave
      cases congrArg Interlock.stallPoint leave
    · rw [issued] at leave ⊢
      unfold IdEx.redirect? at leave
      cases redirects : e.select.redirects with
      | false =>
        rw [redirects] at leave
        cases congrArg Interlock.redirect leave
      | true =>
        rw [redirects] at leave
        refine ⟨f, e, rfl, rfl, ?_, redirects, ?_⟩
        · rw [entry]
          exact ⟨rfl, rfl⟩
        · cases congrArg Interlock.redirect leave
          rfl

/-- A trap that execute takes leads to the trap vector. -/
theorem Core.target_of_trapped {σ : Type} [Coprocessor σ] {p : Core} {bank : Bank σ} {trap : Trap}
    {target : Word} (raised : (p.executeWork bank).1 = .trapped trap target) :
    target = p.settings.trapVector := by
  cases entry : p.latches.idEx with
  | none =>
    rw [(executeWork_of_none entry bank).1] at raised
    cases raised
  | some e =>
    cases owned : e.inst.slot? with
    | none =>
      rw [(executeWork_of_integer entry owned bank).1] at raised
      cases raised
    | some slot =>
      rw [(executeWork_of_slot entry owned bank).1] at raised
      unfold IdEx.answered at raised
      split at raised
      · cases raised
        rfl
      · split at raised <;> cases raised

/-! ## Accepted words -/

/-- The word that a cycle puts into the latch between fetch and decode. -/
def Cycle.accepted {ι δ σ : Type} (c : Cycle ι δ σ) : Option IfId :=
  Latches.nextEntry c.interlock .decode none c.incoming.ifId

theorem Cycle.accepted_of_interlock {ι δ σ : Type} {c : Cycle ι δ σ} {asked : Interlock}
    (interlock : c.interlock = asked) (stopped : asked.fate .fetch ≠ .advance) :
    c.accepted = none := by
  unfold accepted Latches.nextEntry
  rw [interlock]
  cases asked.fate .decode <;> simp [Stage.feeder?, stopped]

namespace Pipeline

variable {ι δ σ : Type} [MemoryPort ι] [MemoryPort δ] [Coprocessor σ]

/-- The word that a cycle of a pipeline fetches. -/
def accepted (p : Pipeline ι δ σ) (inputs : Inputs) : Option IfId :=
  (p.core.evaluate p.imem p.dmem p.bank inputs).accepted

/-- The words that are fetched along a schedule, in order. -/
def fetches (p : Pipeline ι δ σ) : Schedule → List IfId
  | [] => []
  | inputs :: rest => (p.accepted inputs).toList ++ (p.tick inputs).next.fetches rest

theorem fetches_cons (p : Pipeline ι δ σ) (inputs : Inputs) (rest : Schedule) :
    p.fetches (inputs :: rest) =
      (p.accepted inputs).toList ++ (p.tick inputs).next.fetches rest := rfl

end Pipeline

/-! ## Every cycle is one of the three -/

/-- The three things that the cycle of `p` with the answer `t` can be, in which fetch hands on the
word in `accepted`: it fetches, stalls, or is redirected. -/
inductive Turn {ι δ σ : Type} [MemoryPort ι] (p : Pipeline ι δ σ) (t : Tick ι δ σ)
    (accepted : Option IfId) : Prop where
  /-- The word at the program counter is fetched, and nothing stops the pipeline. -/
  | fetch {word : Word}
      (ready : (MemoryPort.access p.imem (.read p.core.pc)).1 = { ready := true, data := word })
      (interlock : t.report.interlock = {}) (trap : t.report.trap = none)
      (pc : t.report.pcAfter = p.core.pc + 4)
      (taken : accepted = some { pc := p.core.pc, inst := word })
      (latch : t.next.core.latches.ifId = some { pc := p.core.pc, inst := word })
  | stall {reason : StallReason} {stage : Stage}
      (cause : (reason, stage) ∈ Interlock.stallCauses)
      (interlock : t.report.interlock = ({} : Interlock).stall reason stage)
      (trap : t.report.trap = none) (pc : t.report.pcAfter = p.core.pc) (taken : accepted = none)
  /-- Decode sends fetch where the instruction that it issues goes on. -/
  | branch {f : IfId} {e : IdEx} (decoding : p.core.latches.ifId = some f)
      (issued : t.next.core.latches.idEx = some e) (entry : e.pc = f.pc ∧ e.inst = f.inst)
      (redirects : e.select.redirects = true)
      (interlock : t.report.interlock = ({} : Interlock).flush .branchMispredict .fetch e.target)
      (trap : t.report.trap = none) (pc : t.report.pcAfter = e.target) (taken : accepted = none)
  /-- Execute takes a trap. -/
  | exception {cause : Trap}
      (interlock : t.report.interlock =
        ({} : Interlock).flush .exception .execute p.core.settings.trapVector)
      (trap : t.report.trap = some cause) (pc : t.report.pcAfter = p.core.settings.trapVector)
      (taken : accepted = none)
  /-- The environment interrupts, and may ask for a stall as well. -/
  | interrupt {stall : Bool} {cause : Trap}
      (interlock : t.report.interlock =
        (if stall then ({} : Interlock).stall .externalStall .writeback else {}).flush .interrupt
          .memory p.core.settings.interruptVector)
      (trap : t.report.trap = some cause)
      (pc : t.report.pcAfter = p.core.settings.interruptVector) (taken : accepted = none)

theorem Cycle.LeavesAt.turn_stall {ι δ σ : Type} [MemoryPort ι] [Coprocessor σ]
    {p : Pipeline ι δ σ} {c : Cycle ι δ σ} {latches : Latches} {reason : StallReason}
    {stage : Stage} (leaves : c.LeavesAt p.core latches p.core.pc none)
    (interlock : c.interlock = ({} : Interlock).stall reason stage)
    (cause : (reason, stage) ∈ Interlock.stallCauses) : Turn p (c.edge p.core) c.accepted := by
  refine .stall cause interlock leaves.trap_eq leaves.pc_eq (c.accepted_of_interlock interlock ?_)
  rw [Interlock.fate_stall]
  cases stage <;> exact nofun

namespace Pipeline

variable {ι δ σ : Type} [MemoryPort ι] [MemoryPort δ] [Coprocessor σ]

/-- Every cycle is one of the three. -/
theorem tick_turn (p : Pipeline ι δ σ) (inputs : Inputs) :
    Turn p (p.tick inputs) (p.accepted inputs) := by
  have flow := evaluate_flow p.core p.imem p.dmem p.bank inputs
  change Turn p ((p.core.evaluate p.imem p.dmem p.bank inputs).edge p.core)
    (p.core.evaluate p.imem p.dmem p.bank inputs).accepted
  generalize p.core.evaluate p.imem p.dmem p.bank inputs = c at flow ⊢
  cases flow with
  | interrupted stall =>
    have leaves := p.core.leavesAt_interrupted p.imem p.dmem p.bank stall
    exact .interrupt (p.core.interlock_interrupted p.imem p.dmem p.bank stall) leaves.trap_eq
      leaves.pc_eq (by cases stall <;> rfl)
  | held => exact (p.core.leavesAt_held p.imem p.dmem p.bank).turn_stall rfl (by decide)
  | dataWaiting wait =>
    exact (p.core.leavesAt_dataWaiting wait p.imem p.bank).turn_stall
      (p.core.interlock_dataWaiting wait p.imem p.bank) (by decide)
  | coprocessorWaiting memory wait =>
    exact (p.core.leavesAt_coprocessorWaiting memory wait p.imem).turn_stall
      (p.core.interlock_coprocessorWaiting memory wait p.imem) (by decide)
  | trapped memory raised =>
    cases Core.target_of_trapped raised
    have interlock := p.core.interlock_trapped memory raised p.imem
    have leaves := p.core.leavesAt_trapped memory raised p.imem
    exact .exception interlock leaves.trap_eq leaves.pc_eq
      (Cycle.accepted_of_interlock interlock nofun)
  | operandWaiting memory execute wait =>
    exact (p.core.leavesAt_operandWaiting memory execute wait p.imem).turn_stall
      (p.core.interlock_operandWaiting memory execute wait p.imem)
      (DecodeOutcome.cause_of_wait wait)
  | redirected memory execute leave =>
    obtain ⟨f, e, decoding, issued, entry, redirects, rfl⟩ := decodeStage_redirect leave
    have interlock := p.core.interlock_redirected memory execute leave p.imem
    have leaves := p.core.leavesAt_redirected memory execute leave p.imem
    exact .branch decoding ((congrArg Latches.idEx leaves.latches_eq).trans issued) entry
      redirects interlock leaves.trap_eq leaves.pc_eq
      (Cycle.accepted_of_interlock interlock nofun)
  | straight memory execute decode =>
    have interlock := p.core.interlock_straight memory execute decode (p.core.fetchWork p.imem)
    have leaves := p.core.leavesAt_straight memory execute decode (p.core.fetchWork p.imem)
    cases answer : (MemoryPort.access p.imem (.read p.core.pc)).1 with
    | mk ready word =>
      have outcome := p.core.fetchWork_of_answer answer
      cases ready with
      | true =>
        rw [if_pos rfl] at outcome
        rw [outcome] at interlock leaves
        refine .fetch answer interlock leaves.trap_eq leaves.pc_eq ?_
          (congrArg Latches.ifId leaves.latches_eq)
        unfold Cycle.accepted
        rw [interlock]
        exact congrArg FetchOutcome.latched? outcome
      | false =>
        rw [if_neg (by decide)] at outcome
        rw [outcome] at interlock leaves
        exact leaves.turn_stall interlock (by decide)

/-- An interrupt is reported in the cycle in which the environment asks for it. -/
theorem tick_interrupt (p : Pipeline ι δ σ) (inputs : Inputs) :
    (p.tick inputs).report.interlock.flushes.interrupt = inputs.interrupt := by
  have flow := evaluate_flow p.core p.imem p.dmem p.bank inputs
  change (p.core.evaluate p.imem p.dmem p.bank inputs).interlock.flushes.interrupt = _
  generalize p.core.evaluate p.imem p.dmem p.bank inputs = c at flow ⊢
  cases flow with
  | interrupted stall => cases stall <;> rfl
  | held => rfl
  | dataWaiting wait => rw [p.core.interlock_dataWaiting wait p.imem p.bank]; rfl
  | coprocessorWaiting memory wait =>
    rw [p.core.interlock_coprocessorWaiting memory wait p.imem]; rfl
  | trapped memory raised => rw [p.core.interlock_trapped memory raised p.imem]; rfl
  | operandWaiting memory execute wait =>
    rw [p.core.interlock_operandWaiting memory execute wait p.imem]; rfl
  | redirected memory execute leave =>
    rw [p.core.interlock_redirected memory execute leave p.imem]; rfl
  | straight memory execute decode =>
    rw [p.core.interlock_straight memory execute decode (p.core.fetchWork p.imem)]
    cases (p.core.fetchWork p.imem).1 <;> rfl

end Pipeline

/-! ## What is reported of a cycle -/

/-- Where the cycle of `p` with the answer `t` goes on, by the causes that it reports. -/
def GoesOn {ι δ σ : Type} [MemoryPort ι] (p : Pipeline ι δ σ) (t : Tick ι δ σ) :
    List FlushReason → List StallReason → Prop
  | .branchMispredict :: _, _ =>
      ∃ f e, p.core.latches.ifId = some f ∧ t.next.core.latches.idEx = some e ∧
        (e.pc = f.pc ∧ e.inst = f.inst) ∧ e.select.redirects = true ∧
        t.report.pcAfter = e.target
  | .exception :: _, _ => t.report.pcAfter = p.core.settings.trapVector
  | .interrupt :: _, _ => t.report.pcAfter = p.core.settings.interruptVector
  | [], _ :: _ => t.report.pcAfter = t.report.pcBefore
  | [], [] =>
      t.report.pcAfter = t.report.pcBefore + 4 ∧
        ∃ word, (MemoryPort.access p.imem (.read t.report.pcBefore)).1 =
            { ready := true, data := word } ∧
          t.next.core.latches.ifId = some { pc := t.report.pcBefore, inst := word }

/-- What is reported of the cycle of `p` with the answer `t`. -/
structure OneCause {ι δ σ : Type} [MemoryPort ι] (p : Pipeline ι δ σ) (t : Tick ι δ σ) :
    Prop where
  /-- There is at most one reason to stall, and it goes with the stage that asked. -/
  stall : (t.report.interlock.stalls.toList, t.report.interlock.stallPoint) ∈
    ([], none) :: Interlock.stallCauses.map fun cause => ([cause.1], some cause.2)
  /-- There is at most one reason to flush, and it goes with the oldest stage it empties. -/
  flush : (t.report.interlock.flushes.toList, t.report.interlock.flushPoint) ∈
    ([], none) :: Interlock.flushCauses.map fun cause => ([cause.1], some cause.2)
  both : t.report.stalled = true → t.report.flushed = true →
    t.report.interlock.stalls.toList = [.externalStall] ∧
      t.report.interlock.flushes.toList = [.interrupt]
  trap : t.report.trap.isSome = true ↔
    t.report.interlock.flushes.toList = [.exception] ∨
      t.report.interlock.flushes.toList = [.interrupt]
  before : t.report.pcBefore = p.core.pc
  after : t.report.pcAfter = t.next.core.pc
  goesOn : GoesOn p t t.report.interlock.flushes.toList t.report.interlock.stalls.toList

namespace Turn

variable {ι δ σ : Type} [MemoryPort ι] {p : Pipeline ι δ σ} {t : Tick ι δ σ}
  {accepted : Option IfId}

/-- What is reported of a cycle follows from which of the three it is. -/
theorem oneCause (turn : Turn p t accepted) (before : t.report.pcBefore = p.core.pc)
    (after : t.report.pcAfter = t.next.core.pc) : OneCause p t where
  stall := by
    cases turn with
    | fetch _ interlock => exact interlock ▸ .head _
    | @stall reason stage cause interlock =>
      rw [interlock]
      refine List.mem_cons_of_mem _ (List.mem_map.mpr ⟨_, cause, ?_⟩)
      cases reason <;> rfl
    | branch _ _ _ _ interlock => exact interlock ▸ .head _
    | exception interlock => exact interlock ▸ .head _
    | @interrupt stall _ interlock =>
      rw [interlock]
      cases stall
      · exact .head _
      · exact .tail _ (.head _)
  flush := by
    cases turn with
    | fetch _ interlock => exact interlock ▸ .head _
    | stall _ interlock => exact interlock ▸ .head _
    | branch _ _ _ _ interlock => exact interlock ▸ .tail _ (.head _)
    | exception interlock => exact interlock ▸ .tail _ (.tail _ (.head _))
    | @interrupt stall _ interlock =>
      rw [interlock]
      cases stall <;> exact .tail _ (.tail _ (.tail _ (.head _)))
  both := by
    unfold Report.stalled Report.flushed
    cases turn with
    | fetch _ interlock => exact interlock ▸ nofun
    | stall _ interlock => exact interlock ▸ nofun
    | branch _ _ _ _ interlock => exact interlock ▸ nofun
    | exception interlock => exact interlock ▸ nofun
    | @interrupt stall _ interlock =>
      rw [interlock]
      cases stall
      · exact nofun
      · exact fun _ _ => ⟨rfl, rfl⟩
  trap := by
    cases turn with
    | fetch _ interlock trap =>
      rw [trap, interlock]
      decide
    | stall _ interlock trap =>
      rw [trap, interlock]
      exact ⟨nofun, nofun⟩
    | branch _ _ _ _ interlock trap =>
      rw [trap, interlock]
      exact ⟨nofun, nofun⟩
    | exception interlock trap =>
      rw [trap, interlock]
      exact ⟨fun _ => .inl rfl, fun _ => rfl⟩
    | @interrupt stall _ interlock trap =>
      rw [trap, interlock]
      cases stall <;> exact ⟨fun _ => .inr rfl, fun _ => rfl⟩
  before := before
  after := after
  goesOn := by
    cases turn with
    | fetch ready interlock _ pc _ latch =>
      rw [interlock]
      change _ ∧ _
      rw [before]
      exact ⟨pc, _, ready, latch⟩
    | @stall reason _ _ interlock _ pc =>
      rw [interlock]
      cases reason <;> exact pc.trans before.symm
    | branch decoding issued entry redirects interlock _ pc =>
      rw [interlock]
      exact ⟨_, _, decoding, issued, entry, redirects, pc⟩
    | exception interlock _ pc =>
      rw [interlock]
      exact pc
    | @interrupt stall _ interlock _ pc =>
      rw [interlock]
      cases stall <;> exact pc

/-- A cycle is a fetch, a stall without a flush, or a flush. -/
theorem count (turn : Turn p t accepted) :
    accepted.toList.length +
        ((if t.report.stalled && !t.report.flushed then 1 else 0) +
          if t.report.flushed then 1 else 0) = 1 := by
  unfold Report.stalled Report.flushed
  cases turn with
  | fetch _ interlock _ _ taken =>
    rw [interlock, taken]
    rfl
  | @stall reason _ _ interlock _ _ taken =>
    rw [interlock, taken]
    cases reason <;> rfl
  | branch _ _ _ _ interlock _ _ taken =>
    rw [interlock, taken]
    rfl
  | exception interlock _ _ taken =>
    rw [interlock, taken]
    rfl
  | @interrupt stall _ interlock _ _ taken =>
    rw [interlock, taken]
    cases stall <;> rfl

end Turn

/-! ## The cycles of a run -/

namespace Pipeline

variable {ι δ σ : Type} [MemoryPort ι] [MemoryPort δ] [Coprocessor σ]

/-- The cycles of a run are its fetches, its stalls without a flush, and its flushes. -/
theorem length_eq_fetches (p : Pipeline ι δ σ) (schedule : Schedule) :
    schedule.length =
      (p.fetches schedule).length +
        (p.reports schedule).countP (fun r => r.stalled && !r.flushed) +
        (p.reports schedule).countP (·.flushed) := by
  induction schedule generalizing p with
  | nil => rfl
  | cons inputs rest ih =>
    have one := (p.tick_turn inputs).count
    rw [p.fetches_cons, p.reports_cons, List.length_cons, List.length_append, List.countP_cons,
      List.countP_cons, ih (p.tick inputs).next]
    omega

/-- Every cycle is exactly one of fetch, stall and redirect. Whatever the ports and the coprocessors
answer, a cycle from any state reports one cause at most, or a stall of the environment together
with an interrupt, and goes on accordingly; so the cycles of any run are the fetches, the stalls
without a flush, and the flushes together. -/
theorem cycles_partition (p : Pipeline ι δ σ) :
    (∀ inputs, OneCause p (p.tick inputs)) ∧
      ∀ schedule, schedule.length =
        (p.fetches schedule).length +
          (p.reports schedule).countP (fun r => r.stalled && !r.flushed) +
          (p.reports schedule).countP (·.flushed) :=
  ⟨fun inputs => (p.tick_turn inputs).oneCause rfl rfl, p.length_eq_fetches⟩

end Pipeline

end FiveStage
