import FiveStage.Coprocessor.Reference
import FiveStage.Memory.Timed
import FiveStage.Proofs.Pipeline.Waits

/-!
# How long decode waits for operands

When decode works on an instruction for the first time, the instructions in execute and in the
memory stage decide how often it waits for an operand and why. Each further cycle in which it works
finds them one stage further, and the cycles in which an older stage holds decode change nothing:
behind a word that waits the execute stage is empty, so nothing moves up while the memory stage
waits. The instruction leaves decode in the next cycle in which decode works after the last wait.
-/

namespace FiveStage

namespace Report

/-- Whether decode worked in the cycle: it was neither emptied nor held by an older stage. -/
def decodes (r : Report) : Bool :=
  !r.interlock.blocks .decode

/-- The reasons for which decode waited for an operand. -/
def operandWaits (r : Report) : List StallReason :=
  r.interlock.stalls.toList.filter fun reason => reason == .loadUseHazard || reason == .rawHazard

end Report

/-! ## What the older stages announce -/

/-- Decode issues an instruction with its destination. -/
theorem IdEx.Informed.rd {e : IdEx} {regs : RegisterFile} {ex : Producer}
    (h : e.Informed regs ex) : e.rd = e.inst.rd.toNat := by
  obtain ⟨⟨f, rfl⟩, -⟩ := h
  rfl

/-- What execute hands on announces what its instruction writes. -/
theorem IdEx.Becomes.announces {e : IdEx} {x : ExMem} (becomes : e.Becomes x)
    (decoded : e.ctrl = Control.decode e.inst) (rd : e.rd = e.inst.rd.toNat) :
    x.producer.Announces (some x.inst) := by
  -- A destination that is a register other than `x0` is not zero.
  have nonzero (r : Nat) (writes : Bool) :
      (r != 0 && (writes && e.inst.rd.toNat != 0) && e.inst.rd.toNat == r) =
        (r != 0 && writes && e.inst.rd.toNat == r) := by
    by_cases same : e.inst.rd.toNat = r
    · subst same
      cases writes <;> cases e.inst.rd.toNat != 0 <;> rfl
    · have other : (e.inst.rd.toNat == r) = false := by simpa using same
      rw [other, Bool.and_false, Bool.and_false]
  cases becomes with
  | integer integer =>
    refine ⟨fun r => ?_, congrArg Control.memRead decoded⟩
    change (r != 0 && (e.ctrl.regWrite && e.rd != 0) && e.rd == r) = e.inst.writes r
    unfold Instruction.writes
    rw [rd, nonzero, decoded, integer]
    rfl
  | offloaded owned data =>
    refine ⟨fun r => ?_, congrArg Control.memRead decoded⟩
    change (r != 0 && (true && e.inst.rd.toNat != 0) && e.rd == r) = e.inst.writes r
    unfold Instruction.writes
    rw [rd, nonzero, owned]
    rfl

namespace Core

variable {δ σ : Type} [MemoryPort δ] [Coprocessor σ] {p : Core}

/-- A memory stage that does not wait completes its instruction. -/
theorem memoryWork_complete {x : ExMem} (entry : p.latches.exMem = some x) {dmem : δ}
    (quiet : (p.memoryWork dmem).1.apply {} = {}) :
    ∃ value, (p.memoryWork dmem).1 = .done (x.complete value) := by
  cases access : x.request? with
  | none =>
    rw [memoryWork_of_pass entry access]
    exact ⟨_, rfl⟩
  | some request =>
    rw [memoryWork_of_request entry access] at quiet ⊢
    by_cases ready : (MemoryPort.access dmem request).1.ready = true
    · simp only [ready]
      exact ⟨_, rfl⟩
    · simp only [ready] at quiet
      cases congrArg Interlock.stallPoint quiet

theorem memoryWork_announces
    (announced : ∀ x ∈ p.latches.exMem, x.producer.Announces (some x.inst)) {dmem : δ}
    (quiet : (p.memoryWork dmem).1.apply {} = {}) :
    (p.memoryWork dmem).1.producer.Announces (p.latches.exMem.map (·.inst)) := by
  cases entry : p.latches.exMem with
  | none =>
    rw [memoryWork_of_none entry]
    exact Producer.announces_none
  | some x =>
    obtain ⟨value, done⟩ := memoryWork_complete entry quiet
    have same := announced x entry
    rw [done]
    exact ⟨same.produces_eq, same.isLoad_eq⟩

/-- An execute stage that asks for nothing announces what its instruction writes, and hands it
on. -/
theorem executeWork_announces {regs : RegisterFile} {ex : Producer}
    (informed : ∀ e ∈ p.latches.idEx, e.Informed regs ex) {bank : Bank σ}
    (quiet : (p.executeWork bank).1.apply {} = {}) :
    (p.executeWork bank).1.producer.Announces (p.latches.idEx.map (·.inst)) ∧
      (p.executeWork bank).1.latched?.map (·.inst) = p.latches.idEx.map (·.inst) := by
  cases entry : p.latches.idEx with
  | none =>
    rw [(executeWork_of_none entry bank).1]
    exact ⟨Producer.announces_none, rfl⟩
  | some e =>
    obtain ⟨x, done, becomes⟩ := executeWork_of_quiet entry quiet
    have known := informed e entry
    have announces := becomes.announces known.ctrl known.rd
    rw [becomes.inst] at announces
    rw [done]
    exact ⟨announces, congrArg some becomes.inst⟩

end Core

namespace Pipeline

variable {ι δ σ : Type} [MemoryPort ι] [MemoryPort δ] [Coprocessor σ]

/-- The instructions in flight announce what they write. -/
structure Announced {ι δ σ : Type} (p : Pipeline ι δ σ) : Prop where
  informed : p.Informed
  exMem : ∀ x ∈ p.core.latches.exMem, x.producer.Announces (some x.inst)

theorem Announced.tick {p : Pipeline ι δ σ} (h : p.Announced) (inputs : Inputs) :
    (p.tick inputs).next.Announced := by
  refine ⟨h.informed.tick inputs, fun x entry => ?_⟩
  rcases p.tick_exMem inputs entry with old | ⟨e, issued, becomes⟩
  · exact h.exMem x old
  · have known := h.informed.idEx e issued
    exact becomes.announces known.ctrl known.rd

end Pipeline

/-! ## What a cycle does to the word in decode -/

/-- The word in decode is held or emptied by an older stage, waits for an operand, or leaves. -/
inductive DecodeTurn {ι δ σ : Type} [MemoryPort δ] [Coprocessor σ] (p : Pipeline ι δ σ)
    (t : Tick ι δ σ) : Prop where
  /-- An older stage holds or empties decode. -/
  | blocked (closed : t.report.decodes = false) (silent : t.report.operandWaits = [])
      (fate : t.report.interlock.fate .decode ≠ .advance)
      (kept : t.report.interlock.fate .decode = .hold →
        t.next.core.latches.ifId = p.core.latches.ifId ∧
          (p.core.latches.idEx = none → t.next.core.latches.idEx = none ∧
            t.next.core.latches.exMem = p.core.latches.exMem))
  /-- Decode asks for a wait, and the older instructions move on. -/
  | waits {reason : StallReason} (memory : (p.core.memoryWork p.dmem).1.apply {} = {})
      (execute : (p.core.executeWork p.bank).1.apply {} = {})
      (wait : (p.core.decodeWork p.dmem p.bank).apply {} = ({} : Interlock).stall reason .decode)
      (interlock : t.report.interlock = ({} : Interlock).stall reason .decode)
      (ifId : t.next.core.latches.ifId = p.core.latches.ifId)
      (idEx : t.next.core.latches.idEx = none)
      (exMem : t.next.core.latches.exMem = (p.core.executeWork p.bank).1.latched?)
  /-- Decode issues the word or drops it. -/
  | leaves (memory : (p.core.memoryWork p.dmem).1.apply {} = {})
      (execute : (p.core.executeWork p.bank).1.apply {} = {})
      (goes : ∀ reason, (p.core.decodeWork p.dmem p.bank).apply {} ≠
        ({} : Interlock).stall reason .decode)
      (opens : t.report.decodes = true) (silent : t.report.operandWaits = [])
      (fate : t.report.interlock.fate .decode = .advance)
      (forwards : t.report.forwards = (p.core.decodeWork p.dmem p.bank).forwards)

/-- What an older stage asks for empties decode or holds it. -/
structure Interlock.Closes (asked : Interlock) : Prop where
  blocks : asked.blocks .decode = true
  silent : Report.operandWaits { interlock := asked } = []
  fate : asked.fate .decode ≠ .advance

/-- What a younger stage asks for lets the word in decode leave. -/
structure Interlock.Opens (asked : Interlock) : Prop where
  blocks : asked.blocks .decode = false
  silent : Report.operandWaits { interlock := asked } = []
  fate : asked.fate .decode = .advance

theorem DecodeTurn.of_closes {ι δ σ : Type} [MemoryPort δ] [Coprocessor σ] {p : Pipeline ι δ σ}
    {t : Tick ι δ σ} {asked : Interlock} {latches : Latches} (same : t.report.interlock = asked)
    (next : t.next.core.latches = latches) (closes : asked.Closes)
    (kept : asked.fate .decode = .hold →
      latches.ifId = p.core.latches.ifId ∧
        (p.core.latches.idEx = none → latches.idEx = none ∧
          latches.exMem = p.core.latches.exMem)) : DecodeTurn p t := by
  subst same next
  refine .blocked ?_ closes.silent closes.fate kept
  unfold Report.decodes
  rw [closes.blocks]
  rfl

theorem DecodeTurn.of_opens {ι δ σ : Type} [MemoryPort δ] [Coprocessor σ] {p : Pipeline ι δ σ}
    {t : Tick ι δ σ} {asked : Interlock} (memory : (p.core.memoryWork p.dmem).1.apply {} = {})
    (execute : (p.core.executeWork p.bank).1.apply {} = {})
    (goes : ∀ reason, (p.core.decodeWork p.dmem p.bank).apply {} ≠
      ({} : Interlock).stall reason .decode)
    (same : t.report.interlock = asked) (opens : asked.Opens)
    (forwards : t.report.forwards = (p.core.decodeWork p.dmem p.bank).forwards) :
    DecodeTurn p t := by
  subst same
  refine .leaves memory execute goes ?_ opens.silent opens.fate forwards
  unfold Report.decodes
  rw [opens.blocks]
  rfl

/-- In a cycle in which decode does not work, an older stage holds or empties it. -/
theorem DecodeTurn.of_closed {ι δ σ : Type} [MemoryPort δ] [Coprocessor σ] {p : Pipeline ι δ σ}
    {t : Tick ι δ σ} (turn : DecodeTurn p t) (closed : t.report.decodes = false) :
    t.report.operandWaits = [] ∧ t.report.interlock.fate .decode ≠ .advance ∧
      (t.report.interlock.fate .decode = .hold →
        t.next.core.latches.ifId = p.core.latches.ifId ∧
          (p.core.latches.idEx = none → t.next.core.latches.idEx = none ∧
            t.next.core.latches.exMem = p.core.latches.exMem)) := by
  cases turn with
  | blocked _ silent fate kept => exact ⟨silent, fate, kept⟩
  | waits _ _ _ interlock =>
    unfold Report.decodes at closed
    rw [interlock] at closed
    cases closed
  | leaves _ _ _ opens => cases closed.symm.trans opens

namespace Pipeline

variable {ι δ σ : Type} [MemoryPort ι] [MemoryPort δ] [Coprocessor σ]

theorem tick_decodeTurn (p : Pipeline ι δ σ) (inputs : Inputs) :
    DecodeTurn p (p.tick inputs) := by
  obtain ⟨c, flow, edge⟩ := p.tick_flow inputs
  rw [edge]
  cases flow with
  | interrupted stall =>
    have leaves := p.core.leavesAt_interrupted p.imem p.dmem p.bank stall
    have asked := p.core.interlock_interrupted p.imem p.dmem p.bank stall
    refine .of_closes asked leaves.latches_eq ?_ fun held => ?_
    · cases stall <;> exact ⟨rfl, rfl, fun fate => by cases fate⟩
    · cases stall <;> cases held
  | held =>
    have leaves := p.core.leavesAt_held p.imem p.dmem p.bank
    have asked : _ = ({} : Interlock).stall .externalStall .writeback := rfl
    refine .of_closes asked leaves.latches_eq ⟨rfl, rfl, fun fate => by cases fate⟩ fun _ => ?_
    exact ⟨rfl, fun empty => ⟨empty, rfl⟩⟩
  | dataWaiting wait =>
    have leaves := p.core.leavesAt_dataWaiting wait p.imem p.bank
    have asked := p.core.interlock_dataWaiting wait p.imem p.bank
    refine .of_closes asked leaves.latches_eq ⟨rfl, rfl, fun fate => by cases fate⟩ fun _ => ?_
    exact ⟨rfl, fun empty => ⟨empty, rfl⟩⟩
  | coprocessorWaiting memory wait =>
    have leaves := p.core.leavesAt_coprocessorWaiting memory wait p.imem
    have asked := p.core.interlock_coprocessorWaiting memory wait p.imem
    refine .of_closes asked leaves.latches_eq ⟨rfl, rfl, fun fate => by cases fate⟩ fun _ => ?_
    refine ⟨rfl, fun empty => ?_⟩
    -- Only an instruction of a coprocessor can wait for one.
    rw [(Core.executeWork_of_none empty p.bank).1] at wait
    cases wait
  | trapped memory raised =>
    have leaves := p.core.leavesAt_trapped memory raised p.imem
    have asked := p.core.interlock_trapped memory raised p.imem
    exact .of_closes asked leaves.latches_eq ⟨rfl, rfl, fun fate => by cases fate⟩
      fun held => by cases held
  | operandWaiting memory execute wait =>
    have asked := p.core.interlock_operandWaiting memory execute wait p.imem
    have leaves := (p.core.leavesAt_operandWaiting memory execute wait p.imem).latches_eq
    have ifId := congrArg Latches.ifId leaves
    have idEx := congrArg Latches.idEx leaves
    have exMem := congrArg Latches.exMem leaves
    exact .waits memory execute wait asked ifId idEx exMem
  | redirected memory execute leave =>
    have asked := p.core.interlock_redirected memory execute leave p.imem
    refine .of_opens memory execute (fun reason wait => ?_) asked ⟨rfl, rfl, rfl⟩ rfl
    rw [leave] at wait
    cases congrArg Interlock.stallPoint wait
  | straight memory execute decode =>
    have asked := p.core.interlock_straight memory execute decode (p.core.fetchWork p.imem)
    refine .of_opens memory execute (fun reason wait => ?_) asked ?_ rfl
    · rw [decode] at wait
      cases congrArg Interlock.stallPoint wait
    · cases (p.core.fetchWork p.imem).1 <;> exact ⟨rfl, rfl, rfl⟩

end Pipeline

/-! ## The word and what is in front of it -/

namespace Pipeline

/-- The word is in decode, behind the given instructions in execute and in the memory stage. -/
structure Stands {ι δ σ : Type} (p : Pipeline ι δ σ) (f : IfId) (young old : Option Instruction) :
    Prop where
  ifId : p.core.latches.ifId = some f
  idEx : p.core.latches.idEx.map (·.inst) = young
  exMem : p.core.latches.exMem.map (·.inst) = old

section Stands

variable {ι δ σ : Type} [MemoryPort δ] [Coprocessor σ] {p : Pipeline ι δ σ} {f : IfId}
  {young old : Option Instruction}

/-- What decode makes of the word if it works on it. -/
theorem Stands.decodeWork (stands : p.Stands f young old) :
    p.core.decodeWork p.dmem p.bank =
      f.decode p.core.settings.forwarding p.core.committed (p.core.executeWork p.bank).1.producer
        (p.core.memoryWork p.dmem).1.producer := by
  unfold Core.decodeWork
  rw [stands.ifId]
  rfl

theorem Stands.announces (stands : p.Stands f young old) (known : p.Announced)
    (memory : (p.core.memoryWork p.dmem).1.apply {} = {})
    (execute : (p.core.executeWork p.bank).1.apply {} = {}) :
    (p.core.executeWork p.bank).1.producer.Announces young ∧
      (p.core.memoryWork p.dmem).1.producer.Announces old := by
  refine ⟨?_, ?_⟩
  · rw [← stands.idEx]
    exact (Core.executeWork_announces known.informed.idEx execute).1
  · rw [← stands.exMem]
    exact Core.memoryWork_announces known.exMem memory

end Stands

variable {ι δ σ : Type} [MemoryPort ι] [MemoryPort δ] [Coprocessor σ] {p : Pipeline ι δ σ}
  {f : IfId} {young old : Option Instruction}

/-- A cycle in which an older stage holds decode makes no difference behind an empty execute
stage. -/
theorem Stands.held (stands : p.Stands f none old) (inputs : Inputs)
    (closed : (p.tick inputs).report.decodes = false)
    (held : (p.tick inputs).report.interlock.fate .decode = .hold) :
    (p.tick inputs).next.Stands f none old ∧ (p.tick inputs).report.operandWaits = [] := by
  have empty : p.core.latches.idEx = none := by simpa using stands.idEx
  obtain ⟨silent, -, kept⟩ := (p.tick_decodeTurn inputs).of_closed closed
  obtain ⟨ifId, others⟩ := kept held
  obtain ⟨idEx, exMem⟩ := others empty
  refine ⟨⟨ifId.trans stands.ifId, ?_, ?_⟩, silent⟩
  · rw [idEx]
    rfl
  · rw [exMem]
    exact stands.exMem

/-- A cycle in which decode works takes the first reason off the list, or the word leaves. -/
theorem Stands.works (stands : p.Stands f young old) (known : p.Announced) (inputs : Inputs)
    (opens : (p.tick inputs).report.decodes = true) :
    let forwarding := p.core.settings.forwarding
    let report := (p.tick inputs).report
    (∃ reason rest, f.operandWaits forwarding young old = reason :: rest ∧
        f.operandWaits forwarding none young = rest ∧ report.operandWaits = [reason] ∧
        report.interlock.fate .decode = .hold ∧ (p.tick inputs).next.Stands f none young) ∨
      (f.operandWaits forwarding young old = [] ∧ report.operandWaits = [] ∧
        report.interlock.fate .decode = .advance ∧
        report.forwards = (p.core.decodeWork p.dmem p.bank).forwards ∧
        (p.core.executeWork p.bank).1.producer.Announces young ∧
        (p.core.memoryWork p.dmem).1.producer.Announces old) := by
  intro forwarding report
  cases p.tick_decodeTurn inputs with
  | blocked closed => cases closed.symm.trans opens
  | @waits reason memory execute wait interlock ifId idEx exMem =>
    obtain ⟨announces, announces'⟩ := stands.announces known memory execute
    rw [stands.decodeWork] at wait
    rcases f.decode_operandWaits announces announces' p.core.committed with
      ⟨first, rest, list, next, kind, asked⟩ | ⟨-, goes⟩
    · refine .inl ⟨first, rest, list, next, ?_, ?_, ?_⟩
      · change Report.operandWaits { interlock := report.interlock } = _
        rw [interlock, ← wait, asked]
        rcases kind with rfl | rfl <;> rfl
      · rw [interlock]
        rfl
      · refine ⟨ifId.trans stands.ifId, ?_, ?_⟩
        · rw [idEx]
          rfl
        · rw [exMem, ← stands.idEx]
          exact (Core.executeWork_announces known.informed.idEx execute).2
    · exact absurd wait (goes reason)
  | leaves memory execute goes _ silent fate forwards =>
    obtain ⟨announces, announces'⟩ := stands.announces known memory execute
    rcases f.decode_operandWaits announces announces' p.core.committed with
      ⟨first, rest, -, -, -, asked⟩ | ⟨none, -⟩
    · rw [← stands.decodeWork] at asked
      exact absurd asked (goes first)
    · exact .inr ⟨none, silent, fate, forwards, announces, announces'⟩

/-- Along cycles that keep the word in decode behind an empty execute stage, each cycle in which
decode works takes one reason off the list. -/
theorem Stands.run (stands : p.Stands f none old) (known : p.Announced) (during : Schedule)
    (held : ∀ r ∈ p.reports during, r.interlock.fate .decode = .hold) :
    let waits := (p.reports during).flatMap (·.operandWaits)
    ∃ later, (p.run during).Stands f none later ∧ (p.run during).Announced ∧
      waits ++ f.operandWaits p.core.settings.forwarding none later =
        f.operandWaits p.core.settings.forwarding none old ∧
      (p.reports during).countP (·.decodes) = waits.length ∧ (waits = [] → later = old) := by
  -- Each step moves at most one reason from what is left to what has been waited for.
  induction during generalizing p old with
  | nil => exact ⟨old, stands, known, rfl, rfl, fun _ => rfl⟩
  | cons inputs rest ih =>
    have now := held _ (List.mem_cons_self ..)
    have after : ∀ r ∈ (p.tick inputs).next.reports rest, r.interlock.fate .decode = .hold :=
      fun r member => held r (List.mem_cons_of_mem _ member)
    have next := known.tick inputs
    rw [p.run_cons, p.reports_cons, List.flatMap_cons]
    cases decodes : (p.tick inputs).report.decodes with
    | false =>
      obtain ⟨same, silent⟩ := stands.held inputs decodes now
      obtain ⟨later, final, known', list, count, kept⟩ := ih same next after
      refine ⟨later, final, known', ?_, ?_, ?_⟩
      · rw [silent]
        exact list
      · rw [silent, List.countP_cons_of_neg (by simp [decodes])]
        exact count
      · rw [silent]
        exact kept
    | true =>
      rcases stands.works known inputs decodes with
        ⟨reason, others, first, shorter, waits, -, moved⟩ | ⟨-, -, fate, -⟩
      · obtain ⟨later, final, known', list, count, -⟩ := ih moved next after
        refine ⟨later, final, known', ?_, ?_, ?_⟩
        · rw [waits, first, ← shorter]
          exact congrArg (reason :: ·) list
        · rw [waits, List.countP_cons_of_pos decodes, count]
          rfl
        · rw [waits]
          intro nothing
          cases nothing
      · cases fate.symm.trans now

/-- Cycles that keep decode from working keep the word and report no wait of it. -/
theorem run_blocked (p : Pipeline ι δ σ) (waits : Schedule)
    (held : ∀ r ∈ p.reports waits, r.interlock.fate .decode = .hold)
    (closed : ∀ r ∈ p.reports waits, r.decodes = false) :
    (p.run waits).core.latches.ifId = p.core.latches.ifId ∧
      (p.reports waits).flatMap (·.operandWaits) = [] ∧
      (p.reports waits).countP (·.decodes) = 0 := by
  induction waits generalizing p with
  | nil => exact ⟨rfl, rfl, rfl⟩
  | cons inputs rest ih =>
    have now := held _ (List.mem_cons_self ..)
    have blocked := closed _ (List.mem_cons_self ..)
    obtain ⟨ifId, silent, count⟩ := ih (p.tick inputs).next
      (fun r member => held r (List.mem_cons_of_mem _ member))
      fun r member => closed r (List.mem_cons_of_mem _ member)
    rw [p.run_cons, p.reports_cons, List.flatMap_cons,
      List.countP_cons_of_neg (by simp [blocked])]
    obtain ⟨nothing, -, kept⟩ := (p.tick_decodeTurn inputs).of_closed blocked
    refine ⟨ifId.trans (kept now).1, ?_, count⟩
    rw [nothing, silent]
    rfl

/-- The word leaves in a cycle if decode works in it and has nothing to wait for. It takes what a
load in front of it has read from there. -/
theorem Stands.last (stands : p.Stands f young old) (known : p.Announced) (inputs : Inputs) :
    let forwarding := p.core.settings.forwarding
    let report := (p.tick inputs).report
    (report.interlock.fate .decode = .advance ↔
        report.decodes = true ∧ f.operandWaits forwarding young old = []) ∧
      (report.interlock.fate .decode = .advance → report.operandWaits = []) ∧
      (report.interlock.fate .decode = .advance → forwarding = true → young = none →
        ∀ inst ∈ old, inst.isLoad = true →
          (inst.writes f.operandRegisters.rs1 = true → report.forwards.rs1 = .memLoad) ∧
            (inst.writes f.operandRegisters.rs2 = true → report.forwards.rs2 = .memLoad)) := by
  intro forwarding report
  cases decodes : report.decodes with
  | false =>
    have stays : report.interlock.fate .decode ≠ .advance :=
      ((p.tick_decodeTurn inputs).of_closed decodes).2.1
    refine ⟨⟨fun fate => absurd fate stays, fun works => ?_⟩, fun fate => absurd fate stays,
      fun fate => absurd fate stays⟩
    cases works.1
  | true =>
    rcases stands.works known inputs decodes with
      ⟨reason, rest, list, -, -, fate, -⟩ | ⟨nothing, silent, fate, forwards, announces, announces'⟩
    · have stays : report.interlock.fate .decode ≠ .advance :=
        fun leaves => by cases fate.symm.trans leaves
      refine ⟨⟨fun fate => absurd fate stays, fun works => ?_⟩, fun fate => absurd fate stays,
        fun fate => absurd fate stays⟩
      cases list.symm.trans works.2
    · refine ⟨⟨fun _ => ⟨rfl, nothing⟩, fun _ => fate⟩, fun _ => silent, ?_⟩
      intro _ on empty inst member load
      cases member
      subst empty
      rw [forwards, stands.decodeWork]
      have on' : p.core.settings.forwarding = true := on
      rw [on']
      exact IfId.forwards_of_loaded announces announces' load p.core.committed

/-! ## Stays in decode -/

/-- The word `f` is in decode after `before`. No cycle of `waits` lets decode work on it, the first
one after them does, and all the cycles of `during` keep it there; `last` are the inputs of the
cycle after those. -/
structure Decoding (p : Pipeline ι δ σ) (f : IfId) (before waits during : Schedule)
    (last : Inputs) : Prop where
  entry : (p.run before).core.latches.ifId = some f
  held : ∀ r ∈ (p.run before).reports (waits ++ during), r.interlock.fate .decode = .hold
  closed : ∀ r ∈ (p.run before).reports waits, r.decodes = false
  opens : ∀ r ∈ ((p.run (before ++ waits)).reports (during ++ [last])).head?, r.decodes = true

end Pipeline

/-- How a word stays in decode behind the instructions that were in execute and in the memory stage
when decode first worked on it: the cycles of the stay and one more have the given reports. -/
structure Interlocked (f : IfId) (forwarding : Bool) (young old : Option Instruction)
    (stay : List Report) (last : Report) : Prop where
  /-- Decode waits for the reasons on the list, one after the other. -/
  waits : stay.flatMap (·.operandWaits) <+: f.operandWaits forwarding young old
  /-- It does so in each cycle of the stay in which it works. -/
  cycles : stay.countP (·.decodes) = (stay.flatMap (·.operandWaits)).length
  /-- The word leaves as soon as decode works and has waited for all of them. -/
  leaves : last.interlock.fate .decode = .advance ↔
    last.decodes = true ∧ stay.flatMap (·.operandWaits) = f.operandWaits forwarding young old
  silent : last.interlock.fate .decode = .advance → last.operandWaits = []
  /-- With forwarding, what a load in execute writes is taken from the memory stage. -/
  loaded : last.interlock.fate .decode = .advance → forwarding = true →
    ∀ inst ∈ young, inst.isLoad = true →
      (inst.writes f.operandRegisters.rs1 = true → last.forwards.rs1 = .memLoad) ∧
        (inst.writes f.operandRegisters.rs2 = true → last.forwards.rs2 = .memLoad)
  /-- Without, every operand is taken from the register file. -/
  stored : forwarding = false → last.forwards = ⟨.regFile, .regFile⟩

namespace IfId

variable {f : IfId} {inst : Instruction} {old : Option Instruction}

/-- With forwarding, a load in execute that writes an operand is waited for. -/
theorem operandWaits_ne_nil (load : inst.isLoad = true) (depends : f.dependsOn inst = true) :
    f.operandWaits true (some inst) old ≠ [] := by
  unfold operandWaits
  simp [load, depends]

theorem dependsOn_of_rs1 (writes : inst.writes f.operandRegisters.rs1 = true) :
    f.dependsOn inst = true := by
  unfold dependsOn
  rw [writes, Bool.true_or]

theorem dependsOn_of_rs2 (writes : inst.writes f.operandRegisters.rs2 = true) :
    f.dependsOn inst = true := by
  unfold dependsOn
  rw [writes, Bool.or_true]

end IfId

namespace Pipeline

variable {ι δ σ : Type} [MemoryPort ι] [MemoryPort δ] [Coprocessor σ] {p : Pipeline ι δ σ}
  {f : IfId} {young old : Option Instruction}

/-- A stay of a word that decode works on from the first cycle on. -/
theorem Stands.interlocked (stands : p.Stands f young old) (known : p.Announced)
    (during : Schedule) (last : Inputs)
    (held : ∀ r ∈ p.reports during, r.interlock.fate .decode = .hold)
    (opens : ∀ r ∈ (p.reports (during ++ [last])).head?, r.decodes = true) :
    Interlocked f p.core.settings.forwarding young old (p.reports during)
      ((p.run during).tick last).report := by
  cases during with
  | nil =>
    obtain ⟨leaves, silent, -⟩ := stands.last known last
    refine
      { waits := List.nil_prefix
        cycles := rfl
        leaves := leaves.trans (and_congr_right fun _ => eq_comm)
        silent
        loaded := fun fate on inst member load => ?_
        stored := fun off => tick_forwards off last }
    -- A word that waits for nothing does not depend on a load in front of it.
    have nothing := (leaves.mp fate).2
    cases member
    rw [on] at nothing
    refine ⟨fun writes => ?_, fun writes => ?_⟩
    · exact absurd nothing (IfId.operandWaits_ne_nil load (IfId.dependsOn_of_rs1 writes))
    · exact absurd nothing (IfId.operandWaits_ne_nil load (IfId.dependsOn_of_rs2 writes))
  | cons inputs rest =>
    have works := opens _ rfl
    have now := held _ (List.mem_cons_self ..)
    have after : ∀ r ∈ (p.tick inputs).next.reports rest, r.interlock.fate .decode = .hold :=
      fun r member => held r (List.mem_cons_of_mem _ member)
    rcases stands.works known inputs works with
      ⟨reason, others, list, shorter, waits, -, moved⟩ | ⟨-, -, fate, -⟩
    · obtain ⟨later, final, known', left, count, same⟩ := moved.run (known.tick inputs) rest after
      have settings := (p.tick inputs).next.settings_run rest
      obtain ⟨leaves, silent, loaded⟩ := final.last known' last
      rw [settings] at leaves loaded
      change _ ++ f.operandWaits p.core.settings.forwarding none later =
        f.operandWaits p.core.settings.forwarding none young at left
      rw [shorter] at left
      have taken : (p.reports (inputs :: rest)).flatMap (·.operandWaits) =
          reason :: ((p.tick inputs).next.reports rest).flatMap (·.operandWaits) := by
        rw [p.reports_cons, List.flatMap_cons, waits]
        rfl
      refine
        { waits := ?_
          cycles := ?_
          leaves := leaves.trans (and_congr_right fun _ => ?_)
          silent
          loaded := fun fate on inst member load => ?_
          stored := fun off => tick_forwards (settings ▸ off) last }
      · rw [taken, list, ← left]
        exact List.prefix_append (reason :: _) _
      · rw [taken, p.reports_cons, List.countP_cons_of_pos works, count]
        rfl
      · rw [taken, list, ← left]
        change f.operandWaits p.core.settings.forwarding none later = [] ↔ _
        simp
      · -- With forwarding there is one wait at most, after which the load is next in line.
        rw [on] at shorter
        have none_left : others = [] := shorter.symm
        rw [none_left, List.append_eq_nil_iff] at left
        rw [same left.1] at loaded
        exact loaded fate on rfl inst member load
    · cases fate.symm.trans now

/-- How long decode waits for operands, whatever the ports, the coprocessors and the environment do.
The instructions that are in execute and in the memory stage when decode first works on a word
decide for how many cycles it waits, and for which reasons. With forwarding that is one cycle behind
a load in execute that writes an operand, and none otherwise. Without, it is two cycles behind an
instruction in execute that writes an operand, the first of them for the load if it is one, one
cycle behind such an instruction in the memory stage, and none otherwise. In the next cycle in which
decode works, the word leaves. -/
theorem operands_interlocked (config : Configuration) (regs : RegisterFile) (imem : ι) (dmem : δ)
    (bank : Bank σ) (f : IfId) (before waits during : Schedule) (last : Inputs) :
    let p := (create config imem dmem bank).seeded regs
    let start := p.run (before ++ waits)
    p.Decoding f before waits during last →
      Interlocked f config.pipeline.forwarding (start.core.latches.idEx.map (·.inst))
        (start.core.latches.exMem.map (·.inst)) ((p.run before).reports (waits ++ during))
        ((start.run during).tick last).report := by
  intro p start decoding
  have informed : p.Informed := ⟨(fun _ member => by cases member), fun _ member => by cases member⟩
  have announced : p.Announced := ⟨informed, fun _ member => by cases member⟩
  have known : start.Announced :=
    run_invariant Announced announced (before ++ waits) fun _ inputs _ h => h.tick inputs
  have settings : start.core.settings.forwarding = config.pipeline.forwarding :=
    congrArg PipelineSettings.forwarding (p.settings_run (before ++ waits))
  have split : start = (p.run before).run waits := p.run_append before waits
  have held := decoding.held
  rw [reports_append, List.forall_mem_append, ← split] at held
  obtain ⟨ifId, silent, count⟩ := (p.run before).run_blocked waits held.1 decoding.closed
  rw [← split] at ifId
  have stands : start.Stands f (start.core.latches.idEx.map (·.inst))
      (start.core.latches.exMem.map (·.inst)) :=
    ⟨ifId.trans decoding.entry, rfl, rfl⟩
  have worked := stands.interlocked known during last held.2 decoding.opens
  rw [settings] at worked
  rw [reports_append, ← split]
  refine
    { waits := ?_
      cycles := ?_
      leaves := ?_
      silent := worked.silent
      loaded := worked.loaded
      stored := worked.stored }
  · rw [List.flatMap_append, silent]
    exact worked.waits
  · rw [List.countP_append, List.flatMap_append, count, silent, Nat.zero_add]
    exact worked.cycles
  · rw [List.flatMap_append, silent]
    exact worked.leaves

end Pipeline

/-- The instructions `lw x1, 0(x0)` and `add x2, x1, x1`. -/
def doublingMemory : Memory :=
  ((Memory.create 8 1).write 0 0x00002083 0xF).write 4 0x00108133 0xF

/-- Both on a data memory with a latency of two cycles. -/
def doubling : Pipeline Memory Memory ReferenceUnit :=
  (Pipeline.create {} doublingMemory { doublingMemory with latency := 2 }
    (.reference (.const 1))).seeded .zero

/-- The environment stops the pipeline when the second instruction has come to decode. Then decode
waits for the load in one cycle, the memory stage holds it in another, and it takes both operands
from the load. -/
theorem operands_interlocked_doubling :
    let pause : Schedule := [{ externalStall := true }]
    let stay := (doubling.run (.quiet 2)).reports (pause ++ .quiet 2)
    let last := (((doubling.run (.quiet 2 ++ pause)).run (.quiet 2)).tick {}).report
    stay.flatMap (·.operandWaits) = [.loadUseHazard] ∧ stay.countP (·.decodes) = 1 ∧
      last.forwards = ⟨.memLoad, .memLoad⟩ := by
  intro pause stay last
  have decoding :
      doubling.Decoding { pc := 4, inst := 0x00108133 } (.quiet 2) pause (.quiet 2) {} :=
    ⟨by decide +kernel, by decide +kernel, by decide +kernel, by decide +kernel⟩
  have fate : last.interlock.fate .decode = .advance := by decide +kernel
  let ahead := (doubling.run (.quiet 2 ++ pause)).core.latches
  have young : ahead.idEx.map (·.inst) = some 0x00002083 := by decide +kernel
  have interlocked : Interlocked { pc := 4, inst := 0x00108133 } true (ahead.idEx.map (·.inst))
      (ahead.exMem.map (·.inst)) stay last :=
    Pipeline.operands_interlocked {} .zero doublingMemory
      ({ doublingMemory with latency := 2 } : Memory) (.reference (.const 1)) _ _ _ _ _ decoding
  rw [young] at interlocked
  have waited : stay.flatMap (·.operandWaits) = [.loadUseHazard] := (interlocked.leaves.mp fate).2
  have forwards := interlocked.loaded fate rfl 0x00002083 rfl (by decide)
  refine ⟨waited, ?_, ?_⟩
  · rw [interlocked.cycles, waited]
    rfl
  · have first : last.forwards.rs1 = .memLoad := forwards.1 (by decide)
    have second : last.forwards.rs2 = .memLoad := forwards.2 (by decide)
    exact congr (congrArg Operands.mk first) second

end FiveStage
