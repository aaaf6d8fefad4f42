import FiveStage.Memory.Recorded
import FiveStage.Pipeline.Schedule
import FiveStage.Proofs.Pipeline.Traffic

/-!
# Data accesses

What the pipeline does on its data port can be read off the instructions that commit: each load and
store makes its access once, with the registers as the older instructions have left them, and
nothing else is answered. The invariant is that the instruction in the memory stage presents the
access which it makes when it finds the registers as they are committed (`Informed`). It holds
because decode issues an instruction with the operands that its registers will have, so it speaks of
the instruction in the execute stage as well.
-/

namespace FiveStage

/-- The access that an instruction makes if it finds the registers as they are. A load or store goes
to the sum of its base register and its offset; a store presents its second operand in the lanes
that it writes. -/
def Instruction.access? (inst : Instruction) (regs : RegisterFile) : Option MemoryRequest :=
  let base := regs.read inst.rs1.toNat
  match inst.major? with
  | some .load => some (.read (base + inst.immediateI))
  | some .store =>
      let address := base + inst.immediateS
      let funct3 := inst.funct3.toNat
      some
        { address
          isWrite := true
          data := Lanes.storeData funct3 address (regs.read inst.rs2.toNat)
          byteEnable := Lanes.byteEnable funct3 address }
  | _ => none

namespace RegisterFile

/-- The registers after some instructions have committed, in order. -/
def commits (regs : RegisterFile) (entries : List MemWb) : RegisterFile :=
  entries.foldl (fun regs w => regs.commit (some w)) regs

/-- The accesses that some instructions make which commit in order, from the registers before
them. -/
def requests (regs : RegisterFile) : List MemWb → List MemoryRequest
  | [] => []
  | w :: rest => (w.inst.access? regs).toList ++ (regs.commit (some w)).requests rest

theorem commits_append (regs : RegisterFile) (entries more : List MemWb) :
    regs.commits (entries ++ more) = (regs.commits entries).commits more := by
  simp [commits]

theorem commits_toList (regs : RegisterFile) (entry : Option MemWb) :
    regs.commits entry.toList = regs.commit entry := by
  cases entry <;> rfl

theorem requests_append (regs : RegisterFile) (entries more : List MemWb) :
    regs.requests (entries ++ more) =
      regs.requests entries ++ (regs.commits entries).requests more := by
  induction entries generalizing regs with
  | nil => rfl
  | cons w rest ih =>
    rw [List.cons_append, requests, ih, requests, List.append_assoc]
    rfl

theorem requests_toList (regs : RegisterFile) (entry : Option MemWb) :
    regs.requests entry.toList = (entry.bind fun w => w.inst.access? regs).toList := by
  cases entry with
  | none => rfl
  | some w => exact List.append_nil _

end RegisterFile

/-! ## The invariant -/

/-- The instruction in the memory stage makes its access with the registers as they are
committed. -/
structure ExMem.Informed (x : ExMem) (regs : RegisterFile) : Prop where
  rd : x.rd < 32
  request : x.request? = x.inst.access? regs

/-- The instructions in flight know what the older ones leave in the registers. -/
structure Pipeline.Informed {ι δ σ : Type} (p : Pipeline ι δ σ) : Prop where
  exMem : ∀ x ∈ p.core.latches.exMem, x.Informed p.core.committed
  idEx : ∀ e ∈ p.core.latches.idEx, e.Informed p.core.committed p.core.latches.producer

/-- The access that execute leaves to make is the one that the instruction makes. -/
theorem IfId.request?_integerResult (f : IfId) (regs : RegisterFile) :
    (f.entry regs.read).integerResult.request? = f.inst.access? regs := by
  unfold ExMem.request? Instruction.access? IdEx.integerResult IfId.entry Control.decode
  cases f.inst.major? with
  | none => rfl
  | some major => cases major <;> rfl

/-- An instruction of a coprocessor makes none. -/
theorem IfId.request?_offloadResult {f : IfId} {slot : Slot} (owned : f.inst.slot? = some slot)
    (value : Nat → Word) (data : Word) (regs : RegisterFile) :
    ((f.entry value).offloadResult slot data).request? = f.inst.access? regs := by
  unfold Instruction.slot? at owned
  unfold ExMem.request? Instruction.access? IdEx.offloadResult IdEx.integerResult IfId.entry
    Control.decode
  cases major : f.inst.major? with
  | none =>
    rw [major] at owned
    cases owned
  | some code =>
    rw [major] at owned
    cases code <;> first | rfl | cases owned

namespace IdEx.Informed

variable {e : IdEx} {regs : RegisterFile}

/-- What execute makes of the instruction presents its access. -/
theorem becomes {x : ExMem} (h : e.Informed regs {}) (becomes : e.Becomes x) : x.Informed regs := by
  obtain ⟨⟨f, rfl⟩, -⟩ := h
  refine ⟨?_, ?_⟩
  · rw [becomes.rd]
    exact f.inst.rd.isLt
  · have entry : f.entry (regs.ahead {}) = f.entry regs.read :=
      IfId.entry_congr fun r _ => regs.ahead_empty r
    rw [entry] at becomes
    cases becomes with
    | integer => exact f.request?_integerResult regs
    | offloaded owned => exact IfId.request?_offloadResult owned _ _ regs

end IdEx.Informed

/-! ## A cycle keeps it -/

section Cycle

variable {ι δ σ : Type} {p : Pipeline ι δ σ}

theorem Cycle.LeavesAt.informed [Coprocessor σ] {c : Cycle ι δ σ} {core : Core}
    {latches : Latches} {pc : Word} {trap : Option Trap} {regs : RegisterFile}
    (leaves : c.LeavesAt core latches pc trap) (committed : c.regs.commit latches.memWb = regs)
    (exMem : ∀ x ∈ latches.exMem, x.Informed regs)
    (idEx : ∀ e ∈ latches.idEx, e.Informed regs latches.producer) :
    (c.edge core).next.Informed := by
  obtain ⟨rfl, rfl, rfl⟩ := leaves
  subst committed
  exact ⟨exMem, idEx⟩

/-- The memory stage is done with its instruction: the one in the execute stage finds what it
needs committed. -/
theorem Pipeline.Informed.memory [MemoryPort δ] (h : p.Informed)
    (quiet : (p.core.memoryWork p.dmem).1.apply {} = {}) :
    (∀ w ∈ (p.core.memoryWork p.dmem).1.latched?, w.rd < 32) ∧
      ∀ e ∈ p.core.latches.idEx,
        e.Informed (p.core.committed.commit (p.core.memoryWork p.dmem).1.latched?) {} := by
  obtain ⟨exMem, idEx⟩ := h
  unfold Latches.producer at idEx
  cases entry : p.core.latches.exMem with
  | none =>
    rw [entry] at idEx
    rw [Core.memoryWork_of_none entry]
    exact ⟨(fun _ member => by cases member), idEx⟩
  | some x =>
    rw [entry] at idEx
    obtain ⟨w, done, becomes⟩ := Core.memoryWork_done entry quiet
    have small : x.rd < 32 := (exMem x entry).rd
    rw [done]
    refine ⟨?_, fun e member => (idEx e member).written becomes small⟩
    rintro w ⟨⟩
    rw [becomes.rd]
    exact small

/-- The stages from decode on work. -/
theorem Pipeline.Informed.of_decode [MemoryPort δ] [Coprocessor σ] (h : p.Informed)
    (memory : (p.core.memoryWork p.dmem).1.apply {} = {}) {fetch : FetchOutcome × ι}
    {ifId : Option IfId} {idEx : Option IdEx} {pc : Word} :
    let c := p.core.assemble {} p.core.latches.memWb (p.core.memoryWork p.dmem)
      (p.core.executeWork p.bank) (p.core.decodeWork p.dmem p.bank) fetch
    c.LeavesAt p.core
      { ifId, idEx, exMem := (p.core.executeWork p.bank).1.latched?,
        memWb := (p.core.memoryWork p.dmem).1.latched? } pc none →
    (∀ e ∈ idEx, e ∈ (p.core.decodeWork p.dmem p.bank).latched?) →
    (c.edge p.core).next.Informed := by
  intro c leaves issued
  obtain ⟨small, informed⟩ := h.memory memory
  refine leaves.informed rfl ?_ fun e member => ?_
  · intro x done
    obtain ⟨e, member, becomes⟩ := Core.executeWork_latched done
    exact (informed e member).becomes becomes
  · have operands := decodeStage_informed small (issued e member)
    rw [ExecuteOutcome.producer_eq] at operands
    exact operands

/-- A cycle keeps the instructions in flight informed. -/
theorem Pipeline.Informed.tick [MemoryPort ι] [MemoryPort δ] [Coprocessor σ] (h : p.Informed)
    (inputs : Inputs) : (p.tick inputs).next.Informed := by
  have flow := evaluate_flow p.core p.imem p.dmem p.bank inputs
  change ((p.core.evaluate p.imem p.dmem p.bank inputs).edge p.core).next.Informed
  generalize p.core.evaluate p.imem p.dmem p.bank inputs = c at flow ⊢
  cases flow with
  | interrupted stall =>
    exact (p.core.leavesAt_interrupted p.imem p.dmem p.bank stall).informed rfl
      (fun _ member => by cases member) (fun _ member => by cases member)
  | held => exact (p.core.leavesAt_held p.imem p.dmem p.bank).informed rfl h.exMem h.idEx
  | dataWaiting wait =>
    exact (p.core.leavesAt_dataWaiting wait p.imem p.bank).informed rfl h.exMem h.idEx
  | coprocessorWaiting memory wait =>
    exact (p.core.leavesAt_coprocessorWaiting memory wait p.imem).informed rfl
      (fun _ member => by cases member) (h.memory memory).2
  | trapped memory raised =>
    exact (p.core.leavesAt_trapped memory raised p.imem).informed rfl
      (fun _ member => by cases member) (fun _ member => by cases member)
  | operandWaiting memory execute wait =>
    exact h.of_decode memory (p.core.leavesAt_operandWaiting memory execute wait p.imem)
      fun _ member => by cases member
  | redirected memory execute leave =>
    exact h.of_decode memory (p.core.leavesAt_redirected memory execute leave p.imem)
      fun _ member => member
  | straight memory execute decode =>
    exact h.of_decode memory (p.core.leavesAt_straight memory execute decode _)
      fun _ member => member

end Cycle

/-! ## The accesses of a run -/

namespace RecordedPort

variable {δ : Type} [MemoryPort δ]

/-- An access counts among the answered ones if the port is ready. -/
theorem answered_access (port : RecordedPort δ) (request : MemoryRequest) :
    (MemoryPort.access port request).2.answered =
      port.answered ++ if (MemoryPort.access port request).1.ready then [request] else [] := by
  unfold answered
  rw [accesses_access, List.filter_append, List.map_append]
  change _ ++ (List.filter _ [(⟨request, (MemoryPort.access port request).1⟩ : Access)]).map _ = _
  cases ready : (MemoryPort.access port request).1.ready <;> simp [ready]

end RecordedPort

namespace Pipeline

section Committed

variable {ι δ σ : Type} [MemoryPort ι] [MemoryPort δ] [Coprocessor σ]

/-- What the memory stage hands on is committed by the end of the next cycle. -/
theorem tick_committed (p : Pipeline ι δ σ) (inputs : Inputs) :
    (p.tick inputs).next.core.committed = p.core.committed.commit (p.moved inputs) := by
  have regs : (p.tick inputs).next.core.regs =
      p.core.regs.commit (p.tick inputs).report.retired := rfl
  unfold Core.committed
  rw [regs, ← RegisterFile.commits_toList, ← RegisterFile.commits_toList,
    ← RegisterFile.commits_append, p.retired_append_memWb, RegisterFile.commits_append,
    RegisterFile.commits_toList, RegisterFile.commits_toList]

/-- What has left the memory stage stays so: it has retired or is in the last latch. -/
theorem memWb_prefix (p : Pipeline ι δ σ) (schedule : Schedule) :
    p.core.latches.memWb.toList <+:
      p.retired schedule ++ (p.run schedule).core.latches.memWb.toList := by
  induction schedule generalizing p with
  | nil => exact List.prefix_refl _
  | cons inputs rest ih =>
    rw [retired_cons, List.append_assoc]
    have moved : p.core.latches.memWb.toList <+: (p.tick inputs).report.retired.toList ++
        (p.tick inputs).next.core.latches.memWb.toList := by
      rw [p.retired_append_memWb]
      exact List.prefix_append _ _
    exact moved.trans ((List.prefix_append_right_inj _).mpr (ih (p.tick inputs).next))

end Committed

variable {ι δ σ : Type} [MemoryPort ι] [MemoryPort δ] [Coprocessor σ]
  {p : Pipeline ι (RecordedPort δ) σ}

/-- What is answered in a cycle is the access of the instruction that the memory stage hands on. -/
theorem Informed.tick_answered (h : p.Informed) (inputs : Inputs) :
    (p.tick inputs).next.dmem.answered =
      p.dmem.answered ++ p.core.committed.requests (p.moved inputs).toList := by
  rw [RegisterFile.requests_toList]
  cases p.tick_dataTurn inputs with
  | interrupted _ port moved =>
    rw [port, moved]
    exact (List.append_nil _).symm
  | held port _ moved =>
    rw [port, moved]
    exact (List.append_nil _).symm
  | empty _ port moved =>
    rw [port, moved]
    exact (List.append_nil _).symm
  | @passed x entry pass port moved =>
    have none : x.inst.access? p.core.committed = none := by
      rw [← (h.exMem x entry).request, pass]
    rw [port, moved]
    change _ = _ ++ (x.inst.access? p.core.committed).toList
    rw [none]
    exact (List.append_nil _).symm
  | waits _ _ unanswered port _ _ moved =>
    rw [port, moved, RecordedPort.answered_access, unanswered]
    rfl
  | @answered x request entry access ready port _ _ moved =>
    have made : x.inst.access? p.core.committed = some request := by
      rw [← (h.exMem x entry).request, access]
    rw [port, moved, RecordedPort.answered_access, ready]
    change _ = _ ++ (x.inst.access? p.core.committed).toList
    rw [made]
    rfl

/-- What is answered along a run are the accesses of what has left the memory stage. -/
theorem Informed.run_answered (h : p.Informed) (regs : RegisterFile) (earlier : List MemWb)
    (answered : p.dmem.answered = regs.requests (earlier ++ p.core.latches.memWb.toList))
    (committed : p.core.committed = regs.commits (earlier ++ p.core.latches.memWb.toList))
    (schedule : Schedule) :
    (p.run schedule).Informed ∧
      (p.run schedule).core.committed =
        regs.commits (earlier ++ p.retired schedule ++
          (p.run schedule).core.latches.memWb.toList) ∧
      (p.run schedule).dmem.answered =
        regs.requests (earlier ++ p.retired schedule ++
          (p.run schedule).core.latches.memWb.toList) := by
  induction schedule generalizing p earlier with
  | nil =>
    rw [show earlier ++ p.retired [] = earlier from List.append_nil _]
    exact ⟨h, committed, answered⟩
  | cons inputs rest ih =>
    have left : earlier ++ (p.tick inputs).report.retired.toList ++
        (p.tick inputs).next.core.latches.memWb.toList =
        (earlier ++ p.core.latches.memWb.toList) ++ (p.moved inputs).toList := by
      rw [List.append_assoc, p.retired_append_memWb, List.append_assoc]
    rw [retired_cons, ← List.append_assoc]
    refine ih (h.tick inputs) _ ?_ ?_
    · rw [left, RegisterFile.requests_append, ← answered, ← committed]
      exact h.tick_answered inputs
    · rw [left, RegisterFile.commits_append, ← committed, RegisterFile.commits_toList]
      exact p.tick_committed inputs

/-- What the cycle of `p` with the answer `t` does on a recorded data port. -/
inductive Presents (p : Pipeline ι (RecordedPort δ) σ) (t : Tick ι (RecordedPort δ) σ) :
    Prop where
  | nothing (record : t.next.dmem = p.dmem)
  /-- The load or store in the memory stage makes its access, once. The stage is neither emptied
  nor held, and if the access is answered then the instruction moves on in the same cycle. -/
  | access {x : ExMem} {a : Access} (entry : p.core.latches.exMem = some x)
      (request : x.inst.access? p.core.committed = some a.request)
      (live : t.report.interlock.flushed .memory = false)
      (free : t.report.interlock.heldByOlder .memory = false)
      (record : t.next.dmem.accesses = p.dmem.accesses ++ [a])
      (moves : a.response.ready = true →
        t.next.core.latches.memWb = some (x.accessed a.response.data))

theorem Informed.presents (h : p.Informed) (inputs : Inputs) : Presents p (p.tick inputs) := by
  cases p.tick_dataTurn inputs with
  | interrupted _ port => exact .nothing port
  | held port => exact .nothing port
  | empty _ port => exact .nothing port
  | passed _ _ port => exact .nothing port
  | @waits x request entry access unanswered port free =>
    obtain ⟨live, free⟩ := Bool.or_eq_false_iff.mp free
    refine .access (a := ⟨request, (MemoryPort.access p.dmem request).1⟩) entry ?_ live free ?_ ?_
    · exact (h.exMem x entry).request ▸ access
    · rw [port]
      exact p.dmem.accesses_access request
    · intro ready
      exact absurd (unanswered.symm.trans ready) nofun
  | @answered x request entry access ready port free entered moved =>
    obtain ⟨live, free⟩ := Bool.or_eq_false_iff.mp free
    refine .access (a := ⟨request, (MemoryPort.access p.dmem request).1⟩) entry ?_ live free ?_ ?_
    · exact (h.exMem x entry).request ▸ access
    · rw [port]
      exact p.dmem.accesses_access request
    · exact fun _ => entered.trans moved

/-- The pipeline with other registers to start from. -/
def seeded (p : Pipeline ι δ σ) (regs : RegisterFile) : Pipeline ι δ σ :=
  { p with core := { p.core with regs } }

/-- Every committed load and store makes its access exactly once, and nothing else is answered.
Whatever the ports, the coprocessors and the environment do, the accesses that the data port has
answered are, in order, those of the loads and stores that have retired or are in the last latch,
each with the registers as the older instructions have left them. What has come that far is not
discarded any more; and in each cycle only a load or store that is neither emptied nor held presents
an access, which is its own. -/
theorem accessed_once (config : Configuration) (regs : RegisterFile) (imem : ι) (dmem : δ)
    (bank : Bank σ) (schedule : Schedule) :
    let p := (create config imem ({ port := dmem } : RecordedPort δ) bank).seeded regs
    let now := p.run schedule
    now.dmem.answered =
        regs.requests (p.retired schedule ++ now.core.latches.memWb.toList) ∧
      (∀ more, p.retired schedule ++ now.core.latches.memWb.toList <+:
        p.retired (schedule ++ more) ++ (p.run (schedule ++ more)).core.latches.memWb.toList) ∧
      ∀ inputs, Presents now (now.tick inputs) := by
  intro p now
  have start : p.Informed := ⟨(fun _ member => by cases member), fun _ member => by cases member⟩
  obtain ⟨informed, -, answered⟩ := start.run_answered regs [] rfl rfl schedule
  refine ⟨answered, fun more => ?_, informed.presents⟩
  rw [retired_append, run_append, List.append_assoc]
  exact (List.prefix_append_right_inj _).mpr (now.memWb_prefix more)

end Pipeline

end FiveStage
