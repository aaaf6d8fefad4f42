import FiveStage.Coprocessor.Reference
import FiveStage.Memory.Timed
import FiveStage.Pipeline.Schedule
import FiveStage.Proofs.Pipeline.Waits

/-!
# Fields that name a source register

Every word has bits where a format may have a source register. The formats of the instruction set
say which words have one there; in the others the bits are part of an immediate or of the address of
a control and status register, and no instruction in flight can be waited for on their account.
Decode keeps to this, with one exception: the first field of the immediate forms of the CSR
instructions is taken for a register.
-/

namespace FiveStage

/-- The layout of an instruction word. -/
inductive InstructionFormat where
  | r
  | i
  | s
  | b
  | u
  | j
  /-- A SYSTEM word with a register in its first source field. -/
  | csr
  /-- A CSR instruction with an immediate of five bits there. -/
  | csrImmediate
  deriving DecidableEq, Repr

namespace InstructionFormat

/-- Whether the first source field names a register. -/
def usesRs1 : InstructionFormat → Bool
  | r | i | s | b | csr => true
  | u | j | csrImmediate => false

/-- Whether the second source field names a register. -/
def usesRs2 : InstructionFormat → Bool
  | r | s | b => true
  | i | u | j | csr | csrImmediate => false

end InstructionFormat

/-- The layout that the instruction set gives to the words of a major opcode. The CSR instructions
`csrrwi`, `csrrsi` and `csrrci` are told from the others by the upper bit of their function. -/
def Opcode.layout (o : Opcode) (funct3 : BitVec 3) : InstructionFormat :=
  match o with
  | lui | auipc => .u
  | jal => .j
  | jalr | load | opImm | miscMem => .i
  | store => .s
  | branch => .b
  | op | opFp | custom0 | custom1 => .r
  | system =>
      if funct3.toNat = 5 ∨ funct3.toNat = 6 ∨ funct3.toNat = 7 then .csrImmediate else .csr

namespace Instruction

/-- The layout of a word, if its major opcode is allocated. -/
def layout? (inst : Instruction) : Option InstructionFormat :=
  inst.major?.map (·.layout inst.funct3)

/-- Whether the first source field of the word names a register. -/
def usesRs1 (inst : Instruction) : Bool :=
  inst.layout?.any (·.usesRs1)

/-- Whether the second source field of the word names a register. -/
def usesRs2 (inst : Instruction) : Bool :=
  inst.layout?.any (·.usesRs2)

/-- The registers in the source fields of the word. -/
def sourceFields (inst : Instruction) : List Nat :=
  (if inst.usesRs1 then [inst.rs1.toNat] else []) ++ if inst.usesRs2 then [inst.rs2.toNat] else []

/-- Whether the first source field holds an immediate that decode takes for a register. -/
def isCsrImmediate (inst : Instruction) : Bool :=
  inst.layout? = some .csrImmediate

end Instruction

/-! ## What decode reads -/

namespace Control

/-- A SYSTEM word is either a CSR instruction with an immediate or has a register. -/
theorem reads_system {inst : Instruction} (major : inst.major? = some .system) :
    (decode inst).reads = ⟨inst.usesRs1 || inst.isCsrImmediate, inst.usesRs2⟩ := by
  have layout : inst.layout? = some (Opcode.system.layout inst.funct3) := by
    unfold Instruction.layout?
    rw [major]
    rfl
  have first : (decode inst).reads = ⟨true, false⟩ := by
    unfold decode reads
    rw [major]
    rfl
  unfold Instruction.usesRs1 Instruction.usesRs2 Instruction.isCsrImmediate
  rw [layout, first]
  unfold Opcode.layout
  by_cases immediate :
      inst.funct3.toNat = 5 ∨ inst.funct3.toNat = 6 ∨ inst.funct3.toNat = 7
  · simp only [if_pos immediate]
    rfl
  · simp only [if_neg immediate]
    rfl

/-- Decode reads the source fields of a word, and the immediate of a CSR instruction. -/
theorem reads_decode {inst : Instruction} (kept : inst.isUnrecognised = false) :
    (decode inst).reads = ⟨inst.usesRs1 || inst.isCsrImmediate, inst.usesRs2⟩ := by
  unfold Instruction.isUnrecognised Instruction.slot? at kept
  cases major : inst.major? with
  | none => simp [decode, major] at kept
  | some o =>
    cases o with
    | miscMem => simp [decode, major] at kept
    | system => exact reads_system major
    | _ =>
      simp [Instruction.usesRs1, Instruction.usesRs2, Instruction.isCsrImmediate,
        Instruction.layout?, decode, major, reads, Opcode.layout, bubble,
        InstructionFormat.usesRs1, InstructionFormat.usesRs2]

end Control

namespace DecodeOutcome

/-- Decode treats a word as its format says: only the source fields can be in flight, and decode
waits only if one of them is. -/
structure RespectsFormat (d : DecodeOutcome) (inst : Instruction) (ex mem : Producer) : Prop where
  rs1 : inst.usesRs1 = false → d.hazards.rs1 = .none ∧ d.forwards.rs1 = .regFile
  rs2 : inst.usesRs2 = false → d.hazards.rs2 = .none ∧ d.forwards.rs2 = .regFile
  /-- A wait for a load is for one that writes a source field. -/
  loadUse : (d.apply {}).stalls.loadUseHazard = true →
    ex.isLoad = true ∧ ∃ field ∈ inst.sourceFields, ex.produces field = true
  /-- A wait for an instruction in flight is for one that writes a source field. -/
  rawHazard : (d.apply {}).stalls.rawHazard = true →
    ∃ field ∈ inst.sourceFields, ex.produces field = true ∨ mem.produces field = true

theorem respectsFormat_idle (inst : Instruction) (ex mem : Producer) :
    idle.RespectsFormat inst ex mem where
  rs1 _ := ⟨rfl, rfl⟩
  rs2 _ := ⟨rfl, rfl⟩
  loadUse wait := absurd wait (by decide)
  rawHazard wait := absurd wait (by decide)

end DecodeOutcome

namespace Instruction

theorem mem_sourceFields {inst : Instruction} {field : Nat} :
    field ∈ inst.sourceFields ↔
      inst.usesRs1 = true ∧ field = inst.rs1.toNat ∨
        inst.usesRs2 = true ∧ field = inst.rs2.toNat := by
  unfold sourceFields
  cases inst.usesRs1 <;> cases inst.usesRs2 <;> simp

/-- The immediate of a CSR instruction is not in a source field. -/
theorem usesRs1_of_isCsrImmediate {inst : Instruction} (immediate : inst.isCsrImmediate = true) :
    inst.usesRs1 = false := by
  unfold isCsrImmediate at immediate
  unfold usesRs1
  rw [of_decide_eq_true immediate]
  rfl

end Instruction

/-! ## What decode does with them -/

namespace IfId

variable {f : IfId} (kept : f.inst.isUnrecognised = false)
include kept

/-- The operands that decode looks up. -/
theorem sources_eq :
    f.sources =
      ⟨if f.inst.usesRs1 || f.inst.isCsrImmediate then f.inst.rs1.toNat else 0,
        if f.inst.usesRs2 then f.inst.rs2.toNat else 0⟩ := by
  unfold sources Instruction.sources
  rw [Control.reads_decode kept]

/-- What decode waits for is in a source field, if it is not in an immediate. -/
theorem exists_sourceField {p : Producer}
    (apart : f.inst.isCsrImmediate = true → p.produces f.inst.rs1.toNat = false)
    (awaited : f.awaits p = true) :
    ∃ field ∈ f.inst.sourceFields, p.produces field = true := by
  unfold awaits at awaited
  rw [sources_eq kept, Bool.or_eq_true] at awaited
  rcases awaited with first | second
  · cases used : f.inst.usesRs1 with
    | true =>
      refine ⟨f.inst.rs1.toNat, Instruction.mem_sourceFields.mpr (.inl ⟨used, rfl⟩), ?_⟩
      simpa [used] using first
    | false =>
      cases immediate : f.inst.isCsrImmediate with
      | true => simp [used, immediate, apart immediate] at first
      | false => simp [used, immediate, Producer.produces_zero] at first
  · cases used : f.inst.usesRs2 with
    | true =>
      refine ⟨f.inst.rs2.toNat, Instruction.mem_sourceFields.mpr (.inr ⟨used, rfl⟩), ?_⟩
      simpa [used] using second
    | false => simp [used, Producer.produces_zero] at second

variable (forwarding : Bool) (regs : RegisterFile) (ex mem : Producer)

/-- A first field that is not a source is free, unless it is taken for a register in flight. -/
theorem hazards_rs1_of_unused (unused : f.inst.usesRs1 = false) :
    (f.hazards ex mem).rs1 = .none ↔
      (f.inst.isCsrImmediate = true →
        ex.produces f.inst.rs1.toNat = false ∧ mem.produces f.inst.rs1.toNat = false) := by
  change Hazard.classify f.sources.rs1 ex mem = .none ↔ _
  rw [sources_eq kept, unused, Bool.false_or, Hazard.classify_eq_none]
  cases f.inst.isCsrImmediate with
  | true => exact ⟨fun free _ => free, fun free => free rfl⟩
  | false => exact ⟨fun _ immediate => (by cases immediate), fun _ => ⟨rfl, rfl⟩⟩

theorem hazards_rs2_of_unused (unused : f.inst.usesRs2 = false) :
    (f.hazards ex mem).rs2 = .none := by
  change Hazard.classify f.sources.rs2 ex mem = .none
  rw [sources_eq kept, unused]
  rfl

/-- The hazards are those of the operands, whatever comes of them. -/
theorem hazards_decode : (f.decode forwarding regs ex mem).hazards = f.hazards ex mem := by
  rcases f.decode_kept forwarding regs ex mem kept with
    ⟨-, wait⟩ | ⟨-, -, wait⟩ | ⟨-, -, issued⟩
  · rw [wait]
    rfl
  · rw [wait]
    rfl
  · rw [issued]
    rfl

/-- An operand that is not in flight is taken from the register file. -/
theorem forwards_decode :
    let forwards := (f.decode forwarding regs ex mem).forwards
    ((f.hazards ex mem).rs1 = .none → forwards.rs1 = .regFile) ∧
      ((f.hazards ex mem).rs2 = .none → forwards.rs2 = .regFile) := by
  intro forwards
  have stored (r : Nat) (free : Hazard.classify r ex mem = .none) :
      (Forwarded.resolve r (regs.read r) ex mem).source = .regFile := by
    refine Forwarded.source_resolve ?_
    rw [free]
    decide
  rcases f.decode_kept forwarding regs ex mem kept with
    ⟨-, wait⟩ | ⟨-, -, wait⟩ | ⟨-, -, issued⟩
  · have nothing : forwards = ⟨.regFile, .regFile⟩ := congrArg DecodeOutcome.forwards wait
    rw [nothing]
    exact ⟨fun _ => rfl, fun _ => rfl⟩
  · have nothing : forwards = ⟨.regFile, .regFile⟩ := congrArg DecodeOutcome.forwards wait
    rw [nothing]
    exact ⟨fun _ => rfl, fun _ => rfl⟩
  · have resolved := congrArg DecodeOutcome.forwards issued
    exact ⟨fun free => (congrArg Operands.rs1 resolved).trans (stored _ free),
      fun free => (congrArg Operands.rs2 resolved).trans (stored _ free)⟩

/-- Decode waits for a load only if that writes an operand. -/
theorem loadUse_decode
    (wait : ((f.decode forwarding regs ex mem).apply {}).stalls.loadUseHazard = true) :
    ex.isLoad = true ∧ f.awaits ex = true := by
  rcases f.decode_kept forwarding regs ex mem kept with
    ⟨load, -⟩ | ⟨-, -, other⟩ | ⟨-, -, issued⟩
  · exact load
  · rw [other] at wait
    cases wait
  · rw [issued, issue, DecodeOutcome.stalls_issued] at wait
    cases wait

/-- Decode waits for an instruction in flight only if that writes an operand. -/
theorem rawHazard_decode
    (wait : ((f.decode forwarding regs ex mem).apply {}).stalls.rawHazard = true) :
    f.awaits ex = true ∨ f.awaits mem = true := by
  rcases f.decode_kept forwarding regs ex mem kept with
    ⟨-, other⟩ | ⟨-, raw, -⟩ | ⟨-, -, issued⟩
  · rw [other] at wait
    cases wait
  · exact raw.2
  · rw [issued, issue, DecodeOutcome.stalls_issued] at wait
    cases wait

/-- A word that decode works on is treated as its format says, unless it is a CSR instruction with
an immediate whose bits are the number of a register that execute or the memory stage writes. -/
theorem respectsFormat_decode :
    (f.decode forwarding regs ex mem).RespectsFormat f.inst ex mem ↔
      ¬ (f.inst.isCsrImmediate = true ∧
        (ex.produces f.inst.rs1.toNat = true ∨ mem.produces f.inst.rs1.toNat = true)) := by
  have hazards := hazards_decode kept forwarding regs ex mem
  have forwards := forwards_decode kept forwarding regs ex mem
  constructor
  · rintro respects ⟨immediate, produced⟩
    have unused := Instruction.usesRs1_of_isCsrImmediate immediate
    have idle := (respects.rs1 unused).1
    rw [hazards, hazards_rs1_of_unused kept ex mem unused] at idle
    have free := idle immediate
    rcases produced with young | old
    · exact Bool.false_ne_true (free.1.symm.trans young)
    · exact Bool.false_ne_true (free.2.symm.trans old)
  · intro apart
    have young (immediate : f.inst.isCsrImmediate = true) : ex.produces f.inst.rs1.toNat = false :=
      Bool.eq_false_iff.mpr fun produced => apart ⟨immediate, .inl produced⟩
    have old (immediate : f.inst.isCsrImmediate = true) : mem.produces f.inst.rs1.toNat = false :=
      Bool.eq_false_iff.mpr fun produced => apart ⟨immediate, .inr produced⟩
    refine ⟨fun unused => ?_, fun unused => ?_, fun wait => ?_, fun wait => ?_⟩
    · have free := (hazards_rs1_of_unused kept ex mem unused).mpr fun immediate =>
        ⟨young immediate, old immediate⟩
      rw [hazards]
      exact ⟨free, forwards.1 free⟩
    · have free := hazards_rs2_of_unused kept ex mem unused
      rw [hazards]
      exact ⟨free, forwards.2 free⟩
    · obtain ⟨isLoad, awaited⟩ := loadUse_decode kept forwarding regs ex mem wait
      exact ⟨isLoad, exists_sourceField kept young awaited⟩
    · rcases rawHazard_decode kept forwarding regs ex mem wait with first | second
      · obtain ⟨field, source, writes⟩ := exists_sourceField kept young first
        exact ⟨field, source, .inl writes⟩
      · obtain ⟨field, source, writes⟩ := exists_sourceField kept old second
        exact ⟨field, source, .inr writes⟩

end IfId

/-- Fields that name no register create no dependency, whatever the older stages have asked for and
whatever they will write. The one exception are the CSR instructions with an immediate: those are
not treated as their format says in exactly the cycles in which decode works on them and an
instruction in execute or in the memory stage writes the register with the number of their
immediate. -/
theorem IfId.respects_format_iff {f : IfId} (kept : f.inst.isUnrecognised = false)
    (asked : Interlock) (forwarding : Bool) (regs : RegisterFile) (ex mem : Producer) :
    (decodeStage asked forwarding (some f) regs ex mem).RespectsFormat f.inst ex mem ↔
      ¬ (asked.blocks .decode = false ∧ f.inst.isCsrImmediate = true ∧
        (ex.produces f.inst.rs1.toNat = true ∨ mem.produces f.inst.rs1.toNat = true)) := by
  cases blocked : asked.blocks .decode with
  | true =>
    rw [decodeStage_of_blocks blocked]
    refine ⟨?_, fun _ => DecodeOutcome.respectsFormat_idle ..⟩
    rintro - ⟨works, -⟩
    cases works
  | false =>
    have works : decodeStage asked forwarding (some f) regs ex mem =
        f.decode forwarding regs ex mem :=
      if_neg (Bool.eq_false_iff.mp blocked)
    rw [works, respectsFormat_decode kept]
    simp

/-- The word `lui x5, 1` behind a load of `x1`, whose number its bits have in the place of a source
register. -/
theorem IfId.respects_format_iff_lui :
    let f : IfId := { pc := 4, inst := 0x000082B7 }
    let load : Producer := { register := 1, writes := true, isLoad := true }
    f.inst.rs1.toNat = 1 ∧
      (decodeStage {} true (some f) .zero load {}).RespectsFormat f.inst load {} := by
  intro f load
  exact ⟨by decide, (respects_format_iff (by decide) {} true .zero load {}).mpr (by decide)⟩

/-- The instructions `addi x5, x0, 1` and `csrrwi x0, mscratch, 5`, without forwarding. -/
def scratchingFive : Pipeline Memory Memory ReferenceUnit :=
  let words := ((Memory.create 8 1).write 0 0x00100293 0xF).write 4 0x3402D073 0xF
  .create { pipeline := { forwarding := false } } words words (.reference (.const 1))

/-- The second instruction reads no register, and yet it waits for the first one to write `x5`. -/
theorem immediate_taken_for_register :
    let report := ((scratchingFive.run (.quiet 2)).tick {}).report
    (scratchingFive.run (.quiet 2)).core.latches.ifId = some { pc := 4, inst := 0x3402D073 } ∧
      Instruction.layout? 0x3402D073 = some .csrImmediate ∧
      report.hazards.rs1 = .raw ∧ report.interlock.stalls.rawHazard = true := by
  decide +kernel

end FiveStage
