import FiveStage.Proofs.Statistics.Counters

/-!
# What decode waits for

Decode drops a word that is no instruction. With any other word it waits for a load in the execute
stage that writes an operand, without forwarding for every instruction in flight that writes one,
and otherwise it issues the word. `IfId.decode_kept` lists the three outcomes with their conditions.
-/

namespace FiveStage

/-- Nothing writes `x0`, which an operand that is not read counts as. -/
theorem Producer.produces_zero (p : Producer) : p.produces 0 = false := rfl

theorem Hazard.classify_eq_raw {r : Nat} {ex mem : Producer} :
    classify r ex mem = .raw ↔ ex.produces r = true ∨ mem.produces r = true := by
  unfold classify
  cases ex.produces r <;> cases mem.produces r <;> simp

theorem Hazard.classify_eq_none {r : Nat} {ex mem : Producer} :
    classify r ex mem = .none ↔ ex.produces r = false ∧ mem.produces r = false := by
  unfold classify
  cases ex.produces r <;> cases mem.produces r <;> simp

/-- Decode asks for no stall with a word that it issues. -/
theorem DecodeOutcome.stalls_issued (e : IdEx) (hazards : Operands Hazard)
    (operands : Operands Forwarded) (redirect : Option (PcSource × Word)) :
    ((issued e hazards operands redirect).apply {}).stalls = {} := by
  cases redirect <;> rfl

namespace IfId

/-- The registers that decode looks up for the operands of the word. -/
def sources (f : IfId) : Operands Nat :=
  f.inst.sources (Control.decode f.inst)

/-- The dependencies of the operands on the instructions in flight. -/
def hazards (f : IfId) (ex mem : Producer) : Operands Hazard :=
  f.sources.map (Hazard.classify · ex mem)

/-- The operands as forwarding finds them. -/
def operands (f : IfId) (regs : RegisterFile) (ex mem : Producer) : Operands Forwarded :=
  f.sources.map fun r => Forwarded.resolve r (regs.read r) ex mem

/-- Whether a producer writes an operand of the word. -/
def awaits (f : IfId) (p : Producer) : Bool :=
  p.produces f.sources.rs1 || p.produces f.sources.rs2

variable (f : IfId) (forwarding : Bool) (regs : RegisterFile) (ex mem : Producer)

/-- An operand is in flight if execute or the memory stage writes one. -/
theorem hazards_raw :
    ((f.hazards ex mem).rs1 = .raw ∨ (f.hazards ex mem).rs2 = .raw) ↔
      f.awaits ex = true ∨ f.awaits mem = true := by
  change Hazard.classify _ _ _ = _ ∨ Hazard.classify _ _ _ = _ ↔ _
  unfold awaits
  rw [Hazard.classify_eq_raw, Hazard.classify_eq_raw, Bool.or_eq_true, Bool.or_eq_true,
    or_or_or_comm]

/-- What decode makes of a word that it does not drop. -/
theorem decode_of_kept (kept : f.inst.isUnrecognised = false) :
    f.decode forwarding regs ex mem =
      if ex.isLoad && f.awaits ex then .loadUse f (f.hazards ex mem) ex.register
      else if !forwarding && (f.awaits ex || f.awaits mem) then .rawHazard f (f.hazards ex mem)
      else
        f.issue (Control.decode f.inst) f.sources (f.hazards ex mem) (f.operands regs ex mem) := by
  have load : FiveStage.loadUse [f.sources.rs1, f.sources.rs2] ex =
      (ex.isLoad && f.awaits ex) := by
    simp [FiveStage.loadUse, awaits]
  have raw : ((f.hazards ex mem).rs1 == .raw || (f.hazards ex mem).rs2 == .raw) =
      (f.awaits ex || f.awaits mem) := by
    rw [Bool.eq_iff_iff, Bool.or_eq_true, Bool.or_eq_true, beq_iff_eq, beq_iff_eq]
    exact f.hazards_raw ex mem
  unfold decode
  rw [if_neg (Bool.eq_false_iff.mp kept), ← load, ← raw]
  rfl

/-- Decode waits for a load in execute that writes an operand, without forwarding for anything in
flight that writes one, and issues the word otherwise. -/
theorem decode_kept (kept : f.inst.isUnrecognised = false) :
    let outcome := f.decode forwarding regs ex mem
    ((ex.isLoad = true ∧ f.awaits ex = true) ∧
        outcome = .loadUse f (f.hazards ex mem) ex.register) ∨
      (¬ (ex.isLoad = true ∧ f.awaits ex = true) ∧
        (forwarding = false ∧ (f.awaits ex = true ∨ f.awaits mem = true)) ∧
        outcome = .rawHazard f (f.hazards ex mem)) ∨
      (¬ (ex.isLoad = true ∧ f.awaits ex = true) ∧
        ¬ (forwarding = false ∧ (f.awaits ex = true ∨ f.awaits mem = true)) ∧
        outcome = f.issue (Control.decode f.inst) f.sources (f.hazards ex mem)
          (f.operands regs ex mem)) := by
  intro outcome
  have unfolded := f.decode_of_kept forwarding regs ex mem kept
  change outcome = _ at unfolded
  by_cases load : ex.isLoad = true ∧ f.awaits ex = true
  · refine .inl ⟨load, ?_⟩
    rw [unfolded, load.1, load.2]
    rfl
  · rw [← Bool.and_eq_true] at load
    rw [if_neg load] at unfolded
    by_cases wait : forwarding = false ∧ (f.awaits ex = true ∨ f.awaits mem = true)
    · refine .inr (.inl ⟨by rwa [← Bool.and_eq_true], wait, ?_⟩)
      rw [unfolded, if_pos (by simpa using wait)]
    · refine .inr (.inr ⟨by rwa [← Bool.and_eq_true], wait, ?_⟩)
      rw [unfolded, if_neg (by simpa using wait)]

end IfId

/-! ## Instructions in flight -/

namespace Instruction

/-- Whether the instruction writes the register. A coprocessor writes the destination of every
operation that it completes. -/
def writes (inst : Instruction) (r : Nat) : Bool :=
  r != 0 && (inst.slot?.isSome || (Control.decode inst).regWrite) && inst.rd.toNat == r

/-- Whether the instruction loads what it writes. -/
def isLoad (inst : Instruction) : Bool :=
  (Control.decode inst).memRead

end Instruction

/-- The producer is about to write what the instruction in the stage writes. -/
structure Producer.Announces (p : Producer) (inst : Option Instruction) : Prop where
  produces_eq : ∀ r, p.produces r = inst.any (·.writes r)
  isLoad_eq : p.isLoad = inst.any (·.isLoad)

theorem Producer.announces_none : ({} : Producer).Announces none :=
  ⟨produces_empty, rfl⟩

namespace IfId

/-- The registers that the word reads, zero for an operand that is not read. A word that decode
drops reads none. -/
def operandRegisters (f : IfId) : Operands Nat :=
  if f.inst.isUnrecognised then ⟨0, 0⟩ else f.sources

/-- Whether the word reads what an older instruction writes. -/
def dependsOn (f : IfId) (inst : Instruction) : Bool :=
  inst.writes f.operandRegisters.rs1 || inst.writes f.operandRegisters.rs2

/-- Why decode waits with the word, cycle by cycle, if the given instructions are in execute and in
the memory stage when it starts to work on it. -/
def operandWaits (f : IfId) (forwarding : Bool) (ex mem : Option Instruction) :
    List StallReason :=
  if forwarding then
    if ex.any (·.isLoad) && ex.any f.dependsOn then [.loadUseHazard] else []
  else if ex.any f.dependsOn then
    [if ex.any (·.isLoad) then .loadUseHazard else .rawHazard, .rawHazard]
  else if mem.any f.dependsOn then [.rawHazard]
  else []

variable {f : IfId} {forwarding : Bool} {regs : RegisterFile} {ex mem : Producer}
  {young old : Option Instruction}

theorem dependsOn_of_dropped (dropped : f.inst.isUnrecognised = true) (inst : Instruction) :
    f.dependsOn inst = false := by
  unfold dependsOn operandRegisters
  rw [if_pos dropped]
  rfl

/-- Decode finds in flight what the older instructions write. -/
theorem awaits_eq (kept : f.inst.isUnrecognised = false) (announces : ex.Announces young) :
    f.awaits ex = young.any f.dependsOn := by
  have operands : f.operandRegisters = f.sources := if_neg (Bool.eq_false_iff.mp kept)
  unfold awaits dependsOn
  rw [announces.produces_eq, announces.produces_eq, operands]
  cases young <;> rfl

/-- Decode never waits with a word that it drops. -/
theorem operandWaits_of_dropped (dropped : f.inst.isUnrecognised = true)
    (young old : Option Instruction) : f.operandWaits forwarding young old = [] := by
  have nothing (inst : Option Instruction) : inst.any f.dependsOn = false := by
    cases inst with
    | none => rfl
    | some inst => exact dependsOn_of_dropped dropped inst
  unfold operandWaits
  rw [nothing, nothing, Bool.and_false]
  cases forwarding <;> rfl

/-- In each cycle in which it works, decode waits for the first reason on the list, and then the
older instructions are one stage further and the others are left; if there is none, it does not
wait. -/
theorem decode_operandWaits (announces : ex.Announces young) (announces' : mem.Announces old)
    (regs : RegisterFile) :
    (∃ reason rest, f.operandWaits forwarding young old = reason :: rest ∧
        f.operandWaits forwarding none young = rest ∧
        (reason = .loadUseHazard ∨ reason = .rawHazard) ∧
        (f.decode forwarding regs ex mem).apply {} = ({} : Interlock).stall reason .decode) ∨
      (f.operandWaits forwarding young old = [] ∧
        ∀ reason, (f.decode forwarding regs ex mem).apply {} ≠
          ({} : Interlock).stall reason .decode) := by
  cases kept : f.inst.isUnrecognised with
  | true =>
    have dropped : f.decode forwarding regs ex mem = .dropped f := if_pos kept
    refine .inr ⟨operandWaits_of_dropped kept young old, fun reason wait => ?_⟩
    rw [dropped] at wait
    cases congrArg Interlock.stallPoint wait
  | false =>
    have first := awaits_eq kept announces
    have second := awaits_eq kept announces'
    have load := announces.isLoad_eq
    unfold operandWaits
    rw [← first, ← second, ← load]
    rcases f.decode_kept forwarding regs ex mem kept with
      ⟨⟨isLoad, awaited⟩, wait⟩ | ⟨known, ⟨off, raw⟩, wait⟩ | ⟨known, free, issued⟩
    · rw [isLoad, awaited, wait]
      cases forwarding
      · exact .inl ⟨.loadUseHazard, [.rawHazard], rfl, rfl, .inl rfl, rfl⟩
      · exact .inl ⟨.loadUseHazard, [], rfl, rfl, .inl rfl, rfl⟩
    · subst off
      rw [wait]
      cases awaited : f.awaits ex with
      | true =>
        -- A load would have been waited for as one.
        have integer : ex.isLoad = false := by
          rw [awaited, and_iff_left rfl] at known
          exact Bool.eq_false_iff.mpr known
        rw [integer]
        exact .inl ⟨.rawHazard, [.rawHazard], rfl, rfl, .inr rfl, rfl⟩
      | false =>
        have waits : f.awaits mem = true := by
          rcases raw with young | old
          · exact absurd (awaited.symm.trans young) Bool.false_ne_true
          · exact old
        rw [waits]
        exact .inl ⟨.rawHazard, [], rfl, rfl, .inr rfl, rfl⟩
    · refine .inr ⟨?_, fun reason wait => ?_⟩
      · cases forwarding with
        | true =>
          rw [if_pos rfl, if_neg (by rwa [Bool.and_eq_true])]
        | false =>
          have free : f.awaits ex = false ∧ f.awaits mem = false := by
            simpa using free
          rw [free.1, free.2]
          rfl
      · rw [issued] at wait
        exact DecodeOutcome.apply_issued_ne _ _ _ _ _ wait

/-- Behind a load in the memory stage, with nothing in execute, an operand that is loaded is taken
from there. -/
theorem forwards_of_loaded {inst : Instruction} (empty : ex.Announces none)
    (announces : mem.Announces (some inst)) (load : inst.isLoad = true) (regs : RegisterFile) :
    let forwards := (f.decode true regs ex mem).forwards
    (inst.writes f.operandRegisters.rs1 = true → forwards.rs1 = .memLoad) ∧
      (inst.writes f.operandRegisters.rs2 = true → forwards.rs2 = .memLoad) := by
  cases kept : f.inst.isUnrecognised with
  | true =>
    have nothing : f.operandRegisters = ⟨0, 0⟩ := if_pos kept
    rw [nothing]
    refine ⟨fun writes => ?_, fun writes => ?_⟩
    · cases writes
    · cases writes
  | false =>
    have operands : f.operandRegisters = f.sources := if_neg (Bool.eq_false_iff.mp kept)
    have calm : f.awaits ex = false := awaits_eq kept empty
    have loaded (r : Nat) (writes : inst.writes r = true) :
        (Forwarded.resolve r (regs.read r) ex mem).source = .memLoad := by
      have young : ex.produces r = false := empty.produces_eq r
      have old : mem.produces r = true := (announces.produces_eq r).trans writes
      have isLoad : mem.isLoad = true := announces.isLoad_eq.trans load
      unfold Forwarded.resolve
      rw [young, old, isLoad]
      rfl
    intro forwards
    rw [operands]
    rcases f.decode_kept true regs ex mem kept with ⟨wait, -⟩ | ⟨-, wait, -⟩ | ⟨-, -, issued⟩
    · exact absurd (calm.symm.trans wait.2) Bool.false_ne_true
    · cases wait.1
    · have resolved := congrArg DecodeOutcome.forwards issued
      exact ⟨fun writes => (congrArg Operands.rs1 resolved).trans (loaded _ writes),
        fun writes => (congrArg Operands.rs2 resolved).trans (loaded _ writes)⟩

end IfId

end FiveStage
