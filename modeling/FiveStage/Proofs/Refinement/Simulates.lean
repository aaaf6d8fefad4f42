import FiveStage.Proofs.Memory.ReferencePort
import FiveStage.Proofs.Pipeline.ClockEdge
import FiveStage.Proofs.Sequential.Executes

/-!
# The simulation relation

A pipeline with the reference memories and the reference bank simulates the sequential machine that
has executed everything up to and including the instruction in the last latch. What the other
latches hold is what this machine executes next: first the instruction that execute is done with,
then the one that was issued, then the words in the front end. The stage lemmas say what the work of
each stage means to that machine.
-/

namespace FiveStage

namespace Machine

/-- The front end is on the way to execute from `start` on. -/
def Fetching (code : Storage) (start : Word) (ifId : Option IfId) (pc : Word) : Prop :=
  match ifId with
  | none => pc = start
  | some f => f = { pc := start, inst := code.read start } ∧ pc = start + 4

/-- The machine executes next what decode has issued, and goes on with what the front end holds. It
may have to skip words first that decode has dropped. -/
def Fronts (settings : PipelineSettings) (m : Machine) (idEx : Option IdEx) (ifId : Option IfId)
    (pc : Word) : Prop :=
  match idEx with
  | none => ∃ next, m.Executes settings [] next ∧ Fetching m.code next.pc ifId pc
  | some e => e = m.issued ∧ m.fetched.isUnrecognised = false ∧ Fetching m.code m.target ifId pc

/-- The machine executes next what the latches before writeback hold; after what execute is done
with, its registers that do not count are those in `visible`. -/
def Flies (settings : PipelineSettings) (m : Machine) (visible : SystemUnit) (latches : Latches)
    (pc : Word) : Prop :=
  match latches.exMem with
  | none => visible = m.csrs.uncounted ∧ m.Fronts settings latches.idEx latches.ifId pc
  | some x =>
      ∃ csrs, m.Completes settings x csrs ∧ visible = csrs.uncounted ∧
        (m.after x csrs).Fronts settings latches.idEx latches.ifId pc

end Machine

/-- The pipeline is where the machine is, but for the instructions in flight. -/
structure Simulates (p : Pipeline Memory Memory ReferenceUnit) (m : Machine) : Prop where
  code : m.code = p.imem.storage
  data : m.data = p.dmem.storage
  regs : m.regs = p.core.committed
  lastTrap : m.lastTrap = p.core.lastTrap
  flight : ∃ csrs, p.bank.IsReference m.operation csrs ∧
    m.Flies p.core.settings csrs.uncounted p.core.latches p.core.pc

namespace Machine

variable {settings : PipelineSettings} {m : Machine}

theorem Fronts.executes_nil {idEx : Option IdEx} {ifId : Option IfId} {pc : Word}
    (front : m.Fronts settings idEx ifId pc) :
    ∃ next, m.Executes settings [] next ∧
      next.pc = ((idEx.map (·.pc)).or (ifId.map (·.pc))).getD pc := by
  cases idEx with
  | some e =>
    obtain ⟨rfl, -, -⟩ := front
    exact ⟨m, .refl m, rfl⟩
  | none =>
    obtain ⟨next, skipped, fetching⟩ := front
    refine ⟨next, skipped, ?_⟩
    cases ifId with
    | none => exact fetching.symm
    | some f =>
      obtain ⟨rfl, -⟩ := fetching
      rfl

/-! ## The memory stage -/

/-- The machine once the memory stage is done with the instruction it holds. -/
structure Written (p : Pipeline Memory Memory ReferenceUnit) (m : Machine) : Prop where
  code : m.code = p.imem.storage
  data : m.data = (p.core.memoryWork p.dmem).2.storage
  regs : m.regs = p.core.committed.commit (p.core.memoryWork p.dmem).1.latched?
  lastTrap : m.lastTrap = p.core.lastTrap
  small : ∀ w ∈ (p.core.memoryWork p.dmem).1.latched?, w.rd < 32
  front : m.Fronts p.core.settings p.core.latches.idEx p.core.latches.ifId p.core.pc

theorem exists_written {p : Pipeline Memory Memory ReferenceUnit} {visible : SystemUnit}
    (code : m.code = p.imem.storage) (data : m.data = p.dmem.storage)
    (regs : m.regs = p.core.committed) (lastTrap : m.lastTrap = p.core.lastTrap)
    (flight : m.Flies p.core.settings visible p.core.latches p.core.pc)
    (memory : (p.core.memoryWork p.dmem).1.apply {} = {}) :
    ∃ n, Written p n ∧ visible = n.csrs.uncounted ∧
      m.Executes p.core.settings
        ((p.core.memoryWork p.dmem).1.latched?.toList.map (·.commit)) n := by
  unfold Flies at flight
  cases entry : p.core.latches.exMem with
  | none =>
    rw [entry] at flight
    have idle := Core.memoryWork_of_none entry p.dmem
    refine ⟨m, ⟨code, ?_, ?_, lastTrap, ?_, flight.2⟩, flight.1, ?_⟩
    · rw [idle, data]
    · rw [idle, regs]
      rfl
    · rw [idle]
      intro w member
      cases member
    · rw [idle]
      exact .refl m
  | some x =>
    rw [entry] at flight
    obtain ⟨csrs, completes, agree, front⟩ := flight
    rcases Core.memoryWork_cases entry p.dmem with ⟨⟨pc, address, wait⟩, -⟩ | ⟨done, storage⟩
    · rw [wait] at memory
      cases memory
    · rw [← data] at done storage
      refine ⟨m.after x csrs, ⟨code, ?_, ?_, lastTrap, ?_, front⟩, agree, ?_⟩
      · rw [storage]
        rfl
      · rw [done, ← regs]
        rfl
      · rw [done]
        rintro w ⟨⟩
        rw [ExMem.finish_rd]
        exact completes.small
      · rw [done]
        exact completes.executes

/-! ## The execute stage -/

/-- What the outcome of the execute stage means to the machine. -/
def Works (settings : PipelineSettings) (m : Machine) (visible : SystemUnit) (idEx : Option IdEx) :
    ExecuteOutcome → Prop
  | .idle => idEx = none ∧ visible = m.csrs.uncounted
  | .waiting => visible = m.csrs.uncounted
  | .trapped trap target =>
      target = settings.trapVector ∧ trap.pc = m.pc ∧
        m.execute settings = m.takeTrap trap target ∧ visible = m.csrs.uncounted
  | .done x =>
      idEx = some m.issued ∧ ∃ csrs, m.Completes settings x csrs ∧ visible = csrs.uncounted

theorem works {p : Core} {bank : Bank ReferenceUnit} {csrs : SystemUnit} {ifId : Option IfId}
    {pc : Word} (units : bank.IsReference m.operation csrs)
    (agree : csrs.uncounted = m.csrs.uncounted)
    (front : m.Fronts p.settings p.latches.idEx ifId pc)
    (blind : ∀ e ∈ p.latches.idEx, ¬ e.inst.readsCounter) :
    ∃ csrs', (p.executeWork bank).2.bank.IsReference m.operation csrs' ∧
      m.Works p.settings csrs'.uncounted p.latches.idEx (p.executeWork bank).1 := by
  obtain ⟨csrs', units', flow⟩ := p.executeWork_flow units
  refine ⟨csrs', units', ?_⟩
  -- The unit and the machine answer alike, as the instruction reads no counter.
  have answers {slot : Slot} (entry : p.latches.idEx = some m.issued)
      (owned : m.fetched.slot? = some slot) :=
    Bank.answer_of_uncounted m.operation (u := { csrs with cycle := csrs.cycle + 1 }) agree
      m.issued.request owned (blind _ entry)
  generalize (p.executeWork bank).1 = outcome at flow ⊢
  cases flow with
  | idle empty => exact ⟨empty, agree⟩
  | integer entry integer =>
    rw [entry] at front
    obtain ⟨rfl, recognised, -⟩ := front
    exact ⟨entry, _, .of_integer recognised integer, agree⟩
  | waiting => exact agree
  | trapped entry owned raised =>
    rw [entry] at front
    obtain ⟨rfl, -, -⟩ := front
    rw [(answers entry owned).1] at raised
    exact ⟨rfl, rfl, execute_of_exception owned p.settings raised, agree⟩
  | offloaded entry owned quiet =>
    rw [entry] at front
    obtain ⟨rfl, -, -⟩ := front
    obtain ⟨same, visible⟩ := answers entry owned
    rw [same] at quiet ⊢
    exact ⟨entry, _, .of_slot owned quiet, visible⟩

/-- The machine that decode works for: it has executed the instruction that execute hands on, or
skipped what decode has dropped. Whatever it executes next may be handed on behind that. -/
theorem Works.exists_next {visible : SystemUnit} {idEx : Option IdEx} {outcome : ExecuteOutcome}
    {ifId : Option IfId} {pc : Word} (works : m.Works settings visible idEx outcome)
    (front : m.Fronts settings idEx ifId pc) (quiet : outcome.apply {} = {}) :
    ∃ base next : Machine, m.Executes settings [] base ∧ next.code = m.code ∧
      Fetching m.code next.pc ifId pc ∧
      (∀ r, (outcome.producer.produces r = true → outcome.producer.isLoad = false) →
        m.regs.ahead outcome.producer r = next.regs.read r) ∧
      ∀ latches pc, latches.exMem = outcome.latched? →
        next.Fronts settings latches.idEx latches.ifId pc →
          base.Flies settings visible latches pc := by
  cases outcome with
  | waiting => cases quiet
  | trapped trap target => cases quiet
  | idle =>
    obtain ⟨rfl, agree⟩ := works
    obtain ⟨next, skipped, fetching⟩ := front
    have moved := skipped.eq_of_nil
    refine ⟨next, next, skipped, ?_, fetching, ?_, ?_⟩
    · rw [moved]
    · intro r _
      rw [moved]
      exact m.regs.ahead_empty r
    · intro latches pc empty front
      unfold Flies
      rw [empty]
      refine ⟨?_, front⟩
      rw [moved]
      exact agree
  | done x =>
    obtain ⟨rfl, csrs, completes, agree⟩ := works
    obtain ⟨-, -, fetching⟩ := front
    refine ⟨m, m.after x csrs, .refl m, rfl, fetching, ?_, ?_⟩
    · intro r known
      exact ((x.becomes_finish m.data).read_commit completes.small known m.regs).symm
    · intro latches pc entry front
      unfold Flies
      rw [entry]
      exact ⟨csrs, completes, agree, front⟩

/-! ## The front end -/

section FrontEnd

variable {ifId : Option IfId} {pc : Word}

/-- A front end that waits changes nothing. -/
theorem Fetching.fronts (fetching : Fetching m.code m.pc ifId pc) :
    m.Fronts settings none ifId pc :=
  ⟨m, .refl m, fetching⟩

/-- The fetched word is the next one of the front end. -/
theorem Fronts.fetched {idEx : Option IdEx} (front : m.Fronts settings idEx none pc) :
    m.Fronts settings idEx (some { pc, inst := m.code.read pc }) (pc + 4) := by
  have next {start : Word} (fetching : Fetching m.code start none pc) :
      Fetching m.code start (some { pc, inst := m.code.read pc }) (pc + 4) := by
    cases fetching
    exact ⟨rfl, rfl⟩
  cases idEx with
  | none =>
    obtain ⟨last, skipped, fetching⟩ := front
    exact ⟨last, skipped, next fetching⟩
  | some e =>
    obtain ⟨issued, recognised, fetching⟩ := front
    exact ⟨issued, recognised, next fetching⟩

variable {forwarding : Bool} {regs : RegisterFile} {ex mem : Producer}

/-- What decode hands on is what the machine executes next, if its operands are those of the
machine; and fetch goes on where the machine does. -/
theorem Fetching.decode (fetching : Fetching m.code m.pc ifId pc) (settings : PipelineSettings)
    (values : ∀ r, (ex.produces r = true → ex.isLoad = false) →
      (Forwarded.resolve r (regs.read r) ex mem).value = m.regs.read r) :
    ((decodeStage {} forwarding ifId regs ex mem).apply {} = {} →
      m.Fronts settings (decodeStage {} forwarding ifId regs ex mem).latched? none pc) ∧
    (∀ target, (decodeStage {} forwarding ifId regs ex mem).apply {} =
        ({} : Interlock).flush .branchMispredict .fetch target →
      m.Fronts settings (decodeStage {} forwarding ifId regs ex mem).latched? none target) := by
  cases ifId with
  | none => exact ⟨fun _ => fetching.fronts, nofun⟩
  | some f =>
    obtain ⟨word, rfl⟩ := fetching
    have stage : decodeStage {} forwarding (some f) regs ex mem =
        m.fetchedEntry.decode forwarding regs ex mem := by
      rw [word]
      rfl
    rw [stage]
    rcases m.fetchedEntry.decode_cases forwarding regs ex mem with
      ⟨empty, dropped⟩ | ⟨reason, wait⟩ | ⟨recognised, e, hazards, operands, entry, known, issued⟩
    · rw [dropped]
      refine ⟨fun _ => ?_, fun target leave => ?_⟩
      · exact ⟨_, .skip (execute_of_unrecognised empty settings) (.refl _), rfl⟩
      · cases congrArg Interlock.redirect leave
    · rw [wait]
      refine ⟨fun straight => ?_, fun target leave => ?_⟩
      · cases congrArg Interlock.stallPoint straight
      · cases congrArg Interlock.stallPoint leave
    · have same : e = m.issued := by
        rw [entry]
        refine IfId.entry_congr fun r source => values r (known r ?_)
        rw [entry]
        exact source
      subst same
      rw [issued]
      cases redirect : m.issued.redirect? with
      | none =>
        refine ⟨fun _ => ⟨rfl, recognised, ?_⟩, fun target leave => ?_⟩
        · exact (IdEx.target_of_straight redirect).symm
        · cases congrArg Interlock.redirect leave
      | some way =>
        refine ⟨fun straight => ?_, fun target leave => ⟨rfl, recognised, ?_⟩⟩
        · cases congrArg Interlock.redirect straight
        · cases congrArg Interlock.redirect leave
          exact (IdEx.target_of_redirect redirect).symm

end FrontEnd

end Machine

end FiveStage
