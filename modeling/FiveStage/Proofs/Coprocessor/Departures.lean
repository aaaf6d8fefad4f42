import FiveStage.Memory.Timed
import FiveStage.Pipeline.Schedule
import FiveStage.Proofs.Pipeline.ClockEdge
import FiveStage.Proofs.Pipeline.Operands

/-!
# What the system unit remembers

The system unit executes an instruction in the execute stage, and an interrupt may discard that
instruction afterwards, from the latch before the memory stage. The unit is not told, so what it
holds is what the instructions did that have left this latch, discarded or not. Memory ports may be
any here.
-/

namespace FiveStage

/-- What leaves the latch between execute and the memory stage. -/
inductive Departure where
  /-- The memory stage is done with it. -/
  | done (entry : MemWb)
  /-- An interrupt discards it. -/
  | discarded (entry : ExMem)
  deriving DecidableEq, Repr

/-- The registers and the system unit as far as instructions have written them. -/
structure SystemState where
  regs : RegisterFile
  unit : SystemUnit := {}
  deriving DecidableEq, Repr

namespace SystemState

/-- The system unit after an instruction that finds the registers as they are. -/
def execute (s : SystemState) (inst : Instruction) : SystemUnit :=
  if inst.slot? = some .cp0 then
    let values := (inst.sources (Control.decode inst)).map s.regs.read
    (s.unit.execute { instruction := inst, a := values.rs1, b := values.rs2 }).2
  else s.unit

/-- The state after an instruction that takes effect. -/
def retire (s : SystemState) (w : MemWb) : SystemState where
  regs := s.regs.commit (some w)
  unit := s.execute w.inst

/-- The state after a departure. The effect on the system unit is there in either case. -/
def depart (s : SystemState) : Departure → SystemState
  | .done w => s.retire w
  | .discarded x => { s with unit := s.execute x.inst }

/-- The system unit after the instruction that execute is done with, if there is one. -/
def unitAfter (s : SystemState) (entry : Option ExMem) : SystemUnit :=
  entry.elim s.unit fun x => s.execute x.inst

theorem foldl_discarded (s : SystemState) (entry : Option ExMem) :
    (entry.map Departure.discarded).toList.foldl depart s =
      { s with unit := s.unitAfter entry } := by
  cases entry <;> rfl

theorem execute_of_ne {s : SystemState} {inst : Instruction} (other : inst.slot? ≠ some .cp0) :
    s.execute inst = s.unit :=
  if_neg other

end SystemState

namespace Pipeline

variable {ι δ : Type} [MemoryPort ι] [MemoryPort δ]

/-- What leaves the latch between execute and the memory stage in a cycle. -/
def departure (p : Pipeline ι δ ReferenceUnit) (inputs : Inputs) : Option Departure :=
  if inputs.interrupt then p.core.latches.exMem.map .discarded
  else (p.moved inputs).map .done

/-- What leaves it along a schedule, in order. -/
def departures (p : Pipeline ι δ ReferenceUnit) : Schedule → List Departure
  | [] => []
  | inputs :: rest => (p.departure inputs).toList ++ (p.tick inputs).next.departures rest

theorem departures_cons (p : Pipeline ι δ ReferenceUnit) (inputs : Inputs) (rest : Schedule) :
    p.departures (inputs :: rest) =
      (p.departure inputs).toList ++ (p.tick inputs).next.departures rest := rfl

end Pipeline

/-! ## The invariant -/

/-- The operand of an instruction of the system unit is the value of its register after the older
instructions. -/
structure IdEx.Sees (e : IdEx) (regs : RegisterFile) (ex : Producer) : Prop where
  rd : e.rd = e.inst.rd.toNat
  rs1 : e.rs1 = (e.inst.sources (Control.decode e.inst)).rs1
  known : ex.produces e.rs1 = true → ex.isLoad = false
  rv1 : e.rv1 = regs.ahead ex e.rs1

/-- The system state of the instructions that have left the latch before the memory stage. -/
structure Shadows {ι δ : Type} (p : Pipeline ι δ ReferenceUnit) (s : SystemState) : Prop where
  regs : s.regs = p.core.committed
  unit : ∃ operation csrs, p.bank.IsReference operation csrs ∧
    csrs.plain = (s.unitAfter p.core.latches.exMem).plain
  exMem : ∀ x ∈ p.core.latches.exMem, x.rd < 32
  idEx : ∀ e ∈ p.core.latches.idEx, e.Sees s.regs p.core.latches.producer

section Stages

variable {ι δ : Type} [MemoryPort δ] {p : Pipeline ι δ ReferenceUnit} {s : SystemState}

/-- The memory stage is done: the instruction it held has departed, and its value is known. -/
theorem Shadows.memory (h : Shadows p s)
    (quiet : (p.core.memoryWork p.dmem).1.apply {} = {}) :
    let next := ((p.core.memoryWork p.dmem).1.latched?.map .done).toList.foldl .depart s
    next.regs = p.core.committed.commit (p.core.memoryWork p.dmem).1.latched? ∧
      (∃ operation csrs, p.bank.IsReference operation csrs ∧ csrs.plain = next.unit.plain) ∧
      (∀ w ∈ (p.core.memoryWork p.dmem).1.latched?, w.rd < 32) ∧
      ∀ e ∈ p.core.latches.idEx, e.Sees next.regs {} := by
  obtain ⟨regs, ⟨operation, csrs, units, plain⟩, small, sees⟩ := h
  unfold Latches.producer at sees
  cases entry : p.core.latches.exMem with
  | none =>
    rw [entry] at plain sees
    have idle : (p.core.memoryWork p.dmem).1 = .idle := by
      unfold Core.memoryWork
      rw [entry]
      rfl
    rw [idle]
    refine ⟨regs, ⟨operation, csrs, units, plain⟩, ?_, sees⟩
    intro w member
    cases member
  | some x =>
    rw [entry] at plain sees
    obtain ⟨w, done, becomes⟩ := Core.memoryWork_done entry quiet
    rw [done]
    refine ⟨?_, ⟨operation, csrs, units, ?_⟩, ?_, ?_⟩
    · change s.regs.commit (some w) = _
      rw [regs]
      rfl
    · change _ = (s.execute w.inst).plain
      rw [becomes.inst]
      exact plain
    · rintro w ⟨⟩
      rw [becomes.rd]
      exact small x entry
    · intro e issued
      obtain ⟨rd, rs1, known, rv1⟩ := sees e issued
      refine ⟨rd, rs1, by rw [Producer.produces_empty]; exact nofun, ?_⟩
      rw [rv1, RegisterFile.ahead_empty]
      exact (becomes.read_commit (small x entry) known s.regs).symm

end Stages

namespace SystemState

variable {s : SystemState}

/-- The system unit executes what the execute stage shows it as the state does. -/
theorem plain_answer {csrs : SystemUnit} (plain : csrs.plain = s.unit.plain) {e : IdEx}
    (operation : Operation) (sees : e.Sees s.regs {}) {slot : Slot}
    (owned : e.inst.slot? = some slot) :
    (Bank.answer operation csrs slot e.request).2.plain = (s.execute e.inst).plain := by
  cases slot with
  | cp0 =>
    have operand : e.rv1 = s.regs.read (e.inst.sources (Control.decode e.inst)).rs1 := by
      rw [sees.rv1, RegisterFile.ahead_empty, sees.rs1]
    unfold execute
    rw [if_pos owned]
    refine (SystemUnit.plain_execute plain e.request).trans ?_
    unfold IdEx.request
    rw [operand]
    rfl
  | _ =>
    rw [execute_of_ne (by rw [owned]; decide)]
    exact plain

/-- The execute stage has worked: the system unit has executed what it hands on. -/
theorem exists_unit {core : Core} {bank : Bank ReferenceUnit} {operation : Operation}
    {csrs : SystemUnit} (units : bank.IsReference operation csrs)
    (plain : csrs.plain = s.unit.plain)
    (sees : ∀ e ∈ core.latches.idEx, e.Sees s.regs {}) :
    ∃ csrs', (core.executeWork bank).2.bank.IsReference operation csrs' ∧
      csrs'.plain = (s.unitAfter (core.executeWork bank).1.latched?).plain := by
  obtain ⟨csrs', units', flow⟩ := core.executeWork_flow units
  have clocked : ({ csrs with cycle := csrs.cycle + 1 } : SystemUnit).plain = s.unit.plain := plain
  refine ⟨csrs', units', ?_⟩
  generalize (core.executeWork bank).1 = outcome at flow ⊢
  cases flow with
  | @integer e entry integer =>
    have other : e.integerResult.inst.slot? ≠ some .cp0 := by
      change e.inst.slot? ≠ _
      rw [integer]
      exact nofun
    refine clocked.trans ?_
    exact congrArg SystemUnit.plain (execute_of_ne other).symm
  | offloaded entry owned quiet => exact plain_answer clocked operation (sees _ entry) owned
  | _ => exact clocked

end SystemState

/-! ## One cycle -/

section Cycle

variable {ι δ : Type} {p : Pipeline ι δ ReferenceUnit} {s : SystemState}

/-- The pipeline shadows a state again if the clock edge leaves it where the state is. -/
theorem Cycle.LeavesAt.shadows {c : Cycle ι δ ReferenceUnit} {core : Core}
    {operation : Operation} {csrs : SystemUnit} {latches : Latches} {pc : Word} {trap : Option Trap}
    (leaves : c.LeavesAt core latches pc trap) (regs : s.regs = c.regs.commit latches.memWb)
    (units : c.dispatch.bank.IsReference operation csrs)
    (plain : csrs.plain = (s.unitAfter latches.exMem).plain)
    (exMem : ∀ x ∈ latches.exMem, x.rd < 32)
    (idEx : ∀ e ∈ latches.idEx, e.Sees s.regs latches.producer) :
    Shadows (c.edge core).next s := by
  obtain ⟨rfl, rfl, rfl⟩ := leaves
  obtain ⟨csrs', units', agree⟩ := Cycle.nextBank_isReference units
  refine ⟨regs, ⟨operation, csrs', units', ?_⟩, exMem, idEx⟩
  rw [SystemUnit.plain_of_uncounted agree, SystemUnit.plain_notified]
  exact plain

theorem IdEx.Informed.sees {e : IdEx} {regs : RegisterFile} {ex : Producer}
    (h : e.Informed regs ex) : e.Sees regs ex := by
  obtain ⟨⟨f, rfl⟩, known⟩ := h
  exact ⟨rfl, rfl, known _ (.inl rfl), rfl⟩

variable [MemoryPort δ]

/-- What the instruction in the memory stage makes of the state when the stage is done with it. -/
def SystemState.moved (s : SystemState) (p : Pipeline ι δ ReferenceUnit) : SystemState :=
  ((p.core.memoryWork p.dmem).1.latched?.map .done).toList.foldl .depart s

/-- The execute stage is done with its instruction, and decode has worked as well. -/
theorem Shadows.of_decode (h : Shadows p s)
    (memory : (p.core.memoryWork p.dmem).1.apply {} = {}) {fetch : FetchOutcome × ι}
    {ifId : Option IfId} {idEx : Option IdEx} {pc : Word} :
    let c := p.core.assemble {} p.core.latches.memWb (p.core.memoryWork p.dmem)
      (p.core.executeWork p.bank) (p.core.decodeWork p.dmem p.bank) fetch
    c.LeavesAt p.core
      { ifId, idEx, exMem := (p.core.executeWork p.bank).1.latched?,
        memWb := (p.core.memoryWork p.dmem).1.latched? } pc none →
    (∀ e ∈ idEx, e ∈ (p.core.decodeWork p.dmem p.bank).latched?) →
    Shadows (c.edge p.core).next (s.moved p) := by
  intro c leaves issued
  obtain ⟨regs, ⟨operation, csrs, units, plain⟩, small, sees⟩ := h.memory memory
  obtain ⟨csrs', units', plain'⟩ := SystemState.exists_unit units plain sees
  refine leaves.shadows regs units' plain' ?_ fun e entry => ?_
  · intro x entry
    obtain ⟨e, member, becomes⟩ := Core.executeWork_latched entry
    rw [becomes.rd, (sees e member).rd]
    exact e.inst.rd.isLt
  · have operands := (decodeStage_informed small (issued e entry)).sees
    rw [← regs, ExecuteOutcome.producer_eq] at operands
    exact operands

/-- A cycle leaves the pipeline shadowing the state after what has departed in it. -/
theorem Shadows.tick [MemoryPort ι] (h : Shadows p s) (inputs : Inputs) :
    Shadows (p.tick inputs).next ((p.departure inputs).toList.foldl .depart s) := by
  have flow := evaluate_flow p.core p.imem p.dmem p.bank inputs
  unfold Pipeline.departure Pipeline.moved
  change Shadows ((p.core.evaluate p.imem p.dmem p.bank inputs).edge p.core).next _
  generalize p.core.evaluate p.imem p.dmem p.bank inputs = c at flow ⊢
  cases flow with
  | interrupted stall =>
    obtain ⟨regs, ⟨operation, csrs, units, plain⟩, -, -⟩ := h
    have units' := units.dispatch_empty p.core.dispatcher
    rw [if_pos rfl, SystemState.foldl_discarded]
    refine (p.core.leavesAt_interrupted p.imem p.dmem p.bank stall).shadows ?_ units' plain
      (fun _ entry => by cases entry) (fun _ entry => by cases entry)
    change s.regs = _
    rw [regs]
    cases stall <;> rfl
  | held =>
    obtain ⟨regs, ⟨operation, csrs, units, plain⟩, exMem, idEx⟩ := h
    have units' := units.dispatch_held p.core.dispatcher p.core.latches.idEx
    exact (p.core.leavesAt_held p.imem p.dmem p.bank).shadows regs units' plain exMem idEx
  | dataWaiting wait =>
    obtain ⟨regs, ⟨operation, csrs, units, plain⟩, exMem, idEx⟩ := h
    have units' := units.dispatch_held p.core.dispatcher p.core.latches.idEx
    change Shadows _ (s.moved p)
    unfold SystemState.moved
    rw [wait]
    exact (p.core.leavesAt_dataWaiting wait p.imem p.bank).shadows regs units' plain exMem idEx
  | coprocessorWaiting memory wait =>
    obtain ⟨regs, ⟨operation, csrs, units, plain⟩, small, sees⟩ := h.memory memory
    obtain ⟨csrs', units', plain'⟩ := SystemState.exists_unit units plain sees
    rw [wait] at plain'
    exact (p.core.leavesAt_coprocessorWaiting memory wait p.imem).shadows regs units' plain'
      (fun _ entry => by cases entry) sees
  | trapped memory raised =>
    obtain ⟨regs, ⟨operation, csrs, units, plain⟩, small, sees⟩ := h.memory memory
    obtain ⟨csrs', units', plain'⟩ := SystemState.exists_unit units plain sees
    rw [raised] at plain'
    exact (p.core.leavesAt_trapped memory raised p.imem).shadows regs units' plain'
      (fun _ entry => by cases entry) (fun _ entry => by cases entry)
  | operandWaiting memory execute wait =>
    exact h.of_decode memory (p.core.leavesAt_operandWaiting memory execute wait p.imem)
      fun _ entry => by cases entry
  | redirected memory execute leave =>
    exact h.of_decode memory (p.core.leavesAt_redirected memory execute leave p.imem)
      fun _ entry => entry
  | straight memory execute decode =>
    exact h.of_decode memory (p.core.leavesAt_straight memory execute decode _)
      fun _ entry => entry

/-- So does a run. -/
theorem Shadows.run [MemoryPort ι] (h : Shadows p s) (schedule : Schedule) :
    Shadows (p.run schedule) ((p.departures schedule).foldl .depart s) := by
  induction schedule generalizing p s with
  | nil => exact h
  | cons inputs rest ih =>
    rw [p.departures_cons, List.foldl_append]
    exact ih (h.tick inputs)

end Cycle

/-! ## Departures and retirements -/

/-- What a departure hands on to the last latch. -/
def Departure.done? : Departure → Option MemWb
  | done w => some w
  | discarded _ => none

section Retired

variable {ι δ : Type} [MemoryPort ι] [MemoryPort δ] (p : Pipeline ι δ ReferenceUnit)

theorem Pipeline.done?_departure (inputs : Inputs) :
    (p.departure inputs).toList.filterMap (·.done?) = (p.moved inputs).toList := by
  unfold departure
  cases interrupt : inputs.interrupt with
  | false =>
    rw [if_neg (by decide)]
    cases p.moved inputs <;> rfl
  | true =>
    obtain ⟨stall, _⟩ := inputs
    cases interrupt
    unfold moved
    rw [if_pos rfl, evaluate_interrupted]
    cases p.core.latches.exMem <;> rfl

/-- What is done with has retired, but for what the last latch still holds. -/
theorem Pipeline.retired_append_done (schedule : Schedule) :
    p.retired schedule ++ (p.run schedule).core.latches.memWb.toList =
      p.core.latches.memWb.toList ++ (p.departures schedule).filterMap (·.done?) := by
  induction schedule generalizing p with
  | nil => exact (List.append_nil _).symm
  | cons inputs rest ih =>
    rw [p.retired_cons, p.departures_cons, List.filterMap_append, p.done?_departure,
      List.append_assoc, p.run_cons, ih, ← List.append_assoc, p.retired_append_memWb,
      List.append_assoc]

end Retired

namespace SystemState

/-- As long as no instruction of the system unit is discarded, departing is retiring. -/
theorem foldl_depart {departures : List Departure} (s : SystemState)
    (absent : ∀ x, Departure.discarded x ∈ departures → x.inst.slot? ≠ some .cp0) :
    departures.foldl depart s = (departures.filterMap (·.done?)).foldl retire s := by
  induction departures generalizing s with
  | nil => rfl
  | cons departure rest ih =>
    have rest_absent (x : ExMem) (member : Departure.discarded x ∈ rest) :=
      absent x (List.mem_cons_of_mem _ member)
    cases departure with
    | done w => exact ih (s.retire w) rest_absent
    | discarded x =>
      have same : s.depart (.discarded x) = s := by
        change { s with unit := s.execute x.inst } = s
        rw [execute_of_ne (absent x (List.mem_cons_self ..))]
      rw [List.foldl_cons, same]
      exact ih s rest_absent

theorem unit_foldl_append {retired : List MemWb} {memWb : Option MemWb}
    (other : ∀ w ∈ memWb, w.inst.slot? ≠ some .cp0) (s : SystemState) :
    ((retired ++ memWb.toList).foldl retire s).unit = (retired.foldl retire s).unit := by
  rw [List.foldl_append]
  cases memWb with
  | none => rfl
  | some w => exact execute_of_ne (other w rfl)

end SystemState

/-! ## Discarded instructions -/

theorem shadows_create {ι δ : Type} (config : Configuration) (operation : Operation) (imem : ι)
    (dmem : δ) :
    Shadows (.create config imem dmem (.reference config.coprocessors.latency operation))
      { regs := .zero } where
  regs := rfl
  unit := ⟨operation, {}, Bank.isReference_reference .., rfl⟩
  exMem _ entry := by cases entry
  idEx _ entry := by cases entry

/-- With no instruction of the system unit on its way through the memory stage and writeback, the
registers that only instructions write hold what the departed ones made of them. So they are what
the retired instructions alone make of them exactly when the discarded ones make no difference to
that, which is so if none of the discarded ones was for the system unit. -/
theorem plain_eq_retired_iff {ι δ : Type} [MemoryPort ι] [MemoryPort δ] (config : Configuration)
    (operation : Operation) (imem : ι) (dmem : δ) (schedule : Schedule) :
    let p := Pipeline.create config imem dmem
      (.reference config.coprocessors.latency operation)
    let start : SystemState := { regs := .zero }
    let departed := (p.departures schedule).foldl .depart start
    let retired := (p.retired schedule).foldl .retire start
    (∀ x ∈ (p.run schedule).core.latches.exMem, x.inst.slot? ≠ some .cp0) →
    (∀ w ∈ (p.run schedule).core.latches.memWb, w.inst.slot? ≠ some .cp0) →
      ∃ unit, (p.run schedule).bank.cp0 = .inl unit ∧
        unit.plain = departed.unit.plain ∧
        (unit.plain = retired.unit.plain ↔ departed.unit.plain = retired.unit.plain) ∧
        ((∀ x, .discarded x ∈ p.departures schedule → x.inst.slot? ≠ some .cp0) →
          unit.plain = retired.unit.plain) := by
  intro p start departed retired young old
  obtain ⟨-, ⟨_, unit, units, plain⟩, -, -⟩ :=
    (shadows_create config operation imem dmem).run schedule
  have departed_eq : unit.plain = departed.unit.plain := by
    rw [plain]
    change (departed.unitAfter (p.run schedule).core.latches.exMem).plain = _
    cases entry : (p.run schedule).core.latches.exMem with
    | none => rfl
    | some x => exact congrArg SystemUnit.plain (SystemState.execute_of_ne (young x entry))
  refine ⟨unit, units.cp0, departed_eq, by rw [departed_eq], fun absent => ?_⟩
  rw [departed_eq]
  change ((p.departures schedule).foldl .depart start).unit.plain = _
  rw [SystemState.foldl_depart start absent]
  have done : p.retired schedule ++ (p.run schedule).core.latches.memWb.toList =
      (p.departures schedule).filterMap (·.done?) := p.retired_append_done schedule
  rw [← done, SystemState.unit_foldl_append old]

/-- A memory of the one word `csrrwi x0, mscratch, 5`, which every address reaches. -/
def scratching : Pipeline Memory Memory ReferenceUnit :=
  let memory := (Memory.create 4 1).write 0 0x3402D073 0xF
  .create {} memory memory (.reference ({} : Configuration).coprocessors.latency)

/-- The first write reaches the system unit and is discarded then. -/
theorem plain_eq_retired_iff_scratching :
    let schedule : Schedule := [{}, {}, {}, { interrupt := true }]
    ∃ unit, (scratching.run schedule).bank.cp0 = .inl unit ∧
      unit.plain =
        ((scratching.departures schedule).foldl SystemState.depart
          { regs := .zero }).unit.plain := by
  obtain ⟨unit, same, departed, -⟩ :=
    plain_eq_retired_iff {} singlePrecision scratching.imem scratching.dmem
      [{}, {}, {}, { interrupt := true }] (by decide +kernel) (by decide +kernel)
  exact ⟨unit, same, departed⟩

/-- Nothing has retired and nothing is in flight, and yet the register is written. -/
theorem mscratch_of_discarded :
    let schedule : Schedule := [{}, {}, {}, { interrupt := true }]
    let p := scratching.run schedule
    p.core.latches.exMem = none ∧ p.core.latches.memWb = none ∧
      scratching.retired schedule = [] ∧
      ∃ unit, p.bank.cp0 = .inl unit ∧ unit.mscratch = 5 ∧
        ((scratching.retired schedule).foldl SystemState.retire
          { regs := .zero }).unit.mscratch = 0 := by
  exact ⟨by decide +kernel, by decide +kernel, by decide +kernel, _, rfl, by decide +kernel,
    by decide +kernel⟩

end FiveStage
