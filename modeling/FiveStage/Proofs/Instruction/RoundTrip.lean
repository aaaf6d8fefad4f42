import FiveStage.Proofs.Instruction.Datapath

/-!
# Words and their fields

In every format an instruction word is its fields and its immediate, and nothing else. Packing them
and extracting them are inverse to each other in both directions, for the immediates that the format
can hold; and every immediate that is extracted is one of those. So a branch or a jump goes where
its immediate says.
-/

namespace FiveStage

namespace ImmediateFormat

/-- The immediates that a format can hold: a signed number of twelve bits, an even one of thirteen
or twenty-one, or the upper twenty bits of a word. -/
def Legal : ImmediateFormat → Int → Prop
  | none, imm => imm = 0
  | i, imm | s, imm => -0x800 ≤ imm ∧ imm < 0x800
  | b, imm => -0x1000 ≤ imm ∧ imm < 0x1000 ∧ imm % 2 = 0
  | u, imm => -0x80000000 ≤ imm ∧ imm < 0x80000000 ∧ imm % 0x1000 = 0
  | j, imm => -0x100000 ≤ imm ∧ imm < 0x100000 ∧ imm % 2 = 0

instance (format : ImmediateFormat) (imm : Int) : Decidable (format.Legal imm) :=
  match format with
  | none => inferInstanceAs (Decidable (_ = _))
  | i | s => inferInstanceAs (Decidable (_ ∧ _))
  | b | u | j => inferInstanceAs (Decidable (_ ∧ _ ∧ _))

end ImmediateFormat

/-- The fields of an instruction word and its immediate, by its format. -/
inductive Encoding where
  | r (opcode : BitVec 7) (rd : BitVec 5) (funct3 : BitVec 3) (rs1 rs2 : BitVec 5)
      (funct7 : BitVec 7)
  | i (opcode : BitVec 7) (rd : BitVec 5) (funct3 : BitVec 3) (rs1 : BitVec 5) (imm : Int)
  | s (opcode : BitVec 7) (funct3 : BitVec 3) (rs1 rs2 : BitVec 5) (imm : Int)
  | b (opcode : BitVec 7) (funct3 : BitVec 3) (rs1 rs2 : BitVec 5) (imm : Int)
  | u (opcode : BitVec 7) (rd : BitVec 5) (imm : Int)
  | j (opcode : BitVec 7) (rd : BitVec 5) (imm : Int)
  deriving DecidableEq, Repr

namespace Encoding

def format : Encoding → ImmediateFormat
  | r .. => .none
  | i .. => .i
  | s .. => .s
  | b .. => .b
  | u .. => .u
  | j .. => .j

/-- The immediate, zero for the format without one. -/
def imm : Encoding → Int
  | r .. => 0
  | i _ _ _ _ imm | s _ _ _ _ imm | b _ _ _ _ imm | u _ _ imm | j _ _ imm => imm

open Instruction in
/-- The word with these fields. -/
def word : Encoding → Instruction
  | r opcode rd funct3 rs1 rs2 funct7 => encodeR funct7 rs2 rs1 funct3 rd opcode
  | i opcode rd funct3 rs1 imm => encodeI (BitVec.ofInt 12 imm) rs1 funct3 rd opcode
  | s opcode funct3 rs1 rs2 imm => encodeS (BitVec.ofInt 12 imm) rs2 rs1 funct3 opcode
  | b opcode funct3 rs1 rs2 imm => encodeB (BitVec.ofInt 12 (imm / 2)) rs2 rs1 funct3 opcode
  | u opcode rd imm => encodeU (BitVec.ofInt 20 (imm / 0x1000)) rd opcode
  | j opcode rd imm => encodeJ (BitVec.ofInt 20 (imm / 2)) rd opcode

end Encoding

/-- Twelve zero bits at the end multiply the number. -/
theorem toInt_append_zeros (x : BitVec 20) : (x ++ 0#12).toInt = 0x1000 * x.toInt :=
  BitVec.toInt_append.trans (Int.add_zero _)

namespace Instruction

/-- What is extracted from a word that is taken to have a format. -/
def encoding (inst : Instruction) (format : ImmediateFormat) : Encoding :=
  let imm := (inst.immediate format).toInt
  match format with
  | .none => .r inst.opcode inst.rd inst.funct3 inst.rs1 inst.rs2 inst.funct7
  | .i => .i inst.opcode inst.rd inst.funct3 inst.rs1 imm
  | .s => .s inst.opcode inst.funct3 inst.rs1 inst.rs2 imm
  | .b => .b inst.opcode inst.funct3 inst.rs1 inst.rs2 imm
  | .u => .u inst.opcode inst.rd imm
  | .j => .j inst.opcode inst.rd imm

/-! ## Extraction after packing -/

theorem funct7_encodeR (funct7 : BitVec 7) (rs2 rs1 : BitVec 5) (funct3 : BitVec 3)
    (rd : BitVec 5) (opcode : BitVec 7) :
    (encodeR funct7 rs2 rs1 funct3 rd opcode).funct7 = funct7 := by
  refine extractLsb'_eq fun i bit => ?_
  unfold encodeR
  rw [getLsbD_pack, BitVec.getLsbD_append]
  grind

/-! ## Packing after extraction -/

/-- The offset of a branch in half words. -/
def offsetB (inst : Instruction) : BitVec 12 :=
  inst.extractLsb' 31 1 ++ inst.extractLsb' 7 1 ++ inst.extractLsb' 25 6 ++ inst.extractLsb' 8 4

/-- The offset of a `jal` in half words. -/
def offsetJ (inst : Instruction) : BitVec 20 :=
  inst.extractLsb' 31 1 ++ inst.extractLsb' 12 8 ++ inst.extractLsb' 20 1 ++ inst.extractLsb' 21 10

theorem immediateB_eq (inst : Instruction) :
    inst.immediateB = (inst.offsetB ++ 0#1).signExtend 32 := rfl

theorem immediateJ_eq (inst : Instruction) :
    inst.immediateJ = (inst.offsetJ ++ 0#1).signExtend 32 := rfl

theorem encodeR_fields (inst : Instruction) :
    encodeR inst.funct7 inst.rs2 inst.rs1 inst.funct3 inst.rd inst.opcode = inst := by
  apply BitVec.eq_of_getLsbD_eq
  intro i bit
  simp only [encodeR, getLsbD_pack, funct7, rs2, rs1, funct3, rd, opcode, BitVec.getLsbD_append,
    BitVec.getLsbD_extractLsb']
  grind

theorem encodeI_fields (inst : Instruction) :
    encodeI inst.csr inst.rs1 inst.funct3 inst.rd inst.opcode = inst := by
  apply BitVec.eq_of_getLsbD_eq
  intro i bit
  simp only [encodeI, getLsbD_pack, csr, rs1, funct3, rd, opcode, BitVec.getLsbD_extractLsb']
  grind

theorem encodeS_fields (inst : Instruction) :
    encodeS (inst.extractLsb' 25 7 ++ inst.extractLsb' 7 5) inst.rs2 inst.rs1 inst.funct3
      inst.opcode = inst := by
  apply BitVec.eq_of_getLsbD_eq
  intro i bit
  simp only [encodeS, getLsbD_pack, rs2, rs1, funct3, opcode, BitVec.getLsbD_append,
    BitVec.getLsbD_extractLsb']
  grind

theorem encodeB_fields (inst : Instruction) :
    encodeB inst.offsetB inst.rs2 inst.rs1 inst.funct3 inst.opcode = inst := by
  apply BitVec.eq_of_getLsbD_eq
  intro i bit
  simp only [encodeB, offsetB, getLsbD_pack, rs2, rs1, funct3, opcode, BitVec.getLsbD_append,
    BitVec.getLsbD_extractLsb']
  grind

theorem encodeU_fields (inst : Instruction) :
    encodeU (inst.extractLsb' 12 20) inst.rd inst.opcode = inst := by
  apply BitVec.eq_of_getLsbD_eq
  intro i bit
  simp only [encodeU, getLsbD_pack, rd, opcode, BitVec.getLsbD_extractLsb']
  grind

theorem encodeJ_fields (inst : Instruction) :
    encodeJ inst.offsetJ inst.rd inst.opcode = inst := by
  apply BitVec.eq_of_getLsbD_eq
  intro i bit
  simp only [encodeJ, offsetJ, getLsbD_pack, rd, opcode, BitVec.getLsbD_append,
    BitVec.getLsbD_extractLsb']
  grind

/-! ## Extracted immediates -/

theorem toInt_immediateI (inst : Instruction) : inst.immediateI.toInt = inst.csr.toInt :=
  BitVec.toInt_signExtend_of_le (by decide)

theorem toInt_immediateS (inst : Instruction) :
    inst.immediateS.toInt = (inst.extractLsb' 25 7 ++ inst.extractLsb' 7 5).toInt :=
  BitVec.toInt_signExtend_of_le (by decide)

theorem toInt_immediateB (inst : Instruction) :
    inst.immediateB.toInt = 2 * inst.offsetB.toInt := by
  rw [immediateB_eq, BitVec.toInt_signExtend_of_le (by decide), toInt_append_zero]

theorem toInt_immediateU (inst : Instruction) :
    inst.immediateU.toInt = 0x1000 * (inst.extractLsb' 12 20).toInt :=
  toInt_append_zeros (inst.extractLsb' 12 20)

theorem toInt_immediateJ (inst : Instruction) :
    inst.immediateJ.toInt = 2 * inst.offsetJ.toInt := by
  rw [immediateJ_eq, BitVec.toInt_signExtend_of_le (by decide), toInt_append_zero]

/-- The immediate that is extracted from a word is one that the format can hold. -/
theorem legal_immediate (inst : Instruction) (format : ImmediateFormat) :
    format.Legal (inst.immediate format).toInt := by
  cases format with
  | none => rfl
  | i =>
    show -0x800 ≤ inst.immediateI.toInt ∧ inst.immediateI.toInt < 0x800
    rw [toInt_immediateI]
    exact ⟨inst.csr.le_toInt, inst.csr.toInt_lt⟩
  | s =>
    show -0x800 ≤ inst.immediateS.toInt ∧ inst.immediateS.toInt < 0x800
    rw [toInt_immediateS]
    exact ⟨BitVec.le_toInt _, BitVec.toInt_lt⟩
  | b =>
    show -0x1000 ≤ inst.immediateB.toInt ∧ inst.immediateB.toInt < 0x1000 ∧
      inst.immediateB.toInt % 2 = 0
    rw [toInt_immediateB]
    have low := inst.offsetB.le_toInt
    have high := inst.offsetB.toInt_lt
    omega
  | u =>
    show -0x80000000 ≤ inst.immediateU.toInt ∧ inst.immediateU.toInt < 0x80000000 ∧
      inst.immediateU.toInt % 0x1000 = 0
    rw [toInt_immediateU]
    have low := (inst.extractLsb' 12 20).le_toInt
    have high := (inst.extractLsb' 12 20).toInt_lt
    omega
  | j =>
    show -0x100000 ≤ inst.immediateJ.toInt ∧ inst.immediateJ.toInt < 0x100000 ∧
      inst.immediateJ.toInt % 2 = 0
    rw [toInt_immediateJ]
    have low := inst.offsetJ.le_toInt
    have high := inst.offsetJ.toInt_lt
    omega

/-- Packing what is extracted from a word gives the word. -/
theorem word_encoding (inst : Instruction) (format : ImmediateFormat) :
    (inst.encoding format).word = inst := by
  cases format with
  | none => exact inst.encodeR_fields
  | i =>
    show encodeI (BitVec.ofInt 12 inst.immediateI.toInt) _ _ _ _ = inst
    rw [toInt_immediateI, BitVec.ofInt_toInt, encodeI_fields]
  | s =>
    show encodeS (BitVec.ofInt 12 inst.immediateS.toInt) _ _ _ _ = inst
    rw [toInt_immediateS, BitVec.ofInt_toInt, encodeS_fields]
  | b =>
    show encodeB (BitVec.ofInt 12 (inst.immediateB.toInt / 2)) _ _ _ _ = inst
    rw [toInt_immediateB, Int.mul_ediv_cancel_left _ (by decide), BitVec.ofInt_toInt,
      encodeB_fields]
  | u =>
    show encodeU (BitVec.ofInt 20 (inst.immediateU.toInt / 0x1000)) _ _ = inst
    rw [toInt_immediateU, Int.mul_ediv_cancel_left _ (by decide), BitVec.ofInt_toInt,
      encodeU_fields]
  | j =>
    show encodeJ (BitVec.ofInt 20 (inst.immediateJ.toInt / 2)) _ _ = inst
    rw [toInt_immediateJ, Int.mul_ediv_cancel_left _ (by decide), BitVec.ofInt_toInt,
      encodeJ_fields]

end Instruction

/-! ## Packed immediates -/

namespace Encoding

/-- The immediate of a packed word is the one that was packed. -/
theorem toInt_immediate_word (e : Encoding) (legal : e.format.Legal e.imm) :
    (e.word.immediate e.format).toInt = e.imm := by
  cases e with
  | r opcode rd funct3 rs1 rs2 funct7 => rfl
  | i opcode rd funct3 rs1 imm =>
    obtain ⟨low, high⟩ := legal
    show (Instruction.encodeI ..).immediateI.toInt = imm
    rw [Instruction.immediateI_encodeI, BitVec.toInt_signExtend_of_le (by decide)]
    exact BitVec.toInt_ofInt_eq_self (by decide) low high
  | s opcode funct3 rs1 rs2 imm =>
    obtain ⟨low, high⟩ := legal
    show (Instruction.encodeS ..).immediateS.toInt = imm
    rw [Instruction.immediateS_encodeS, BitVec.toInt_signExtend_of_le (by decide)]
    exact BitVec.toInt_ofInt_eq_self (by decide) low high
  | b opcode funct3 rs1 rs2 imm =>
    obtain ⟨low, high, even⟩ : -0x1000 ≤ imm ∧ imm < 0x1000 ∧ imm % 2 = 0 := legal
    show (Instruction.encodeB ..).immediateB.toInt = imm
    rw [Instruction.immediateB_encodeB, BitVec.toInt_signExtend_of_le (by decide),
      toInt_append_zero, BitVec.toInt_ofInt_eq_self (by decide) (by omega) (by omega)]
    omega
  | u opcode rd imm =>
    obtain ⟨low, high, multiple⟩ :
      -0x80000000 ≤ imm ∧ imm < 0x80000000 ∧ imm % 0x1000 = 0 := legal
    show (Instruction.encodeU ..).immediateU.toInt = imm
    rw [Instruction.immediateU_encodeU, toInt_append_zeros,
      BitVec.toInt_ofInt_eq_self (by decide) (by omega) (by omega)]
    omega
  | j opcode rd imm =>
    obtain ⟨low, high, even⟩ : -0x100000 ≤ imm ∧ imm < 0x100000 ∧ imm % 2 = 0 := legal
    show (Instruction.encodeJ ..).immediateJ.toInt = imm
    rw [Instruction.immediateJ_encodeJ, BitVec.toInt_signExtend_of_le (by decide),
      toInt_append_zero, BitVec.toInt_ofInt_eq_self (by decide) (by omega) (by omega)]
    omega

/-- Extracting from a packed word gives what was packed. -/
theorem encoding_word (e : Encoding) (legal : e.format.Legal e.imm) :
    e.word.encoding e.format = e := by
  have immediate := e.toInt_immediate_word legal
  cases e with
  | r opcode rd funct3 rs1 rs2 funct7 =>
    show Encoding.r _ _ _ _ _ _ = _
    rw [Encoding.r.injEq]
    exact ⟨Instruction.opcode_pack .., Instruction.rd_pack .., Instruction.funct3_pack ..,
      Instruction.rs1_pack .., Instruction.rs2_encodeR .., Instruction.funct7_encodeR ..⟩
  | i opcode rd funct3 rs1 imm =>
    show Encoding.i _ _ _ _ _ = _
    rw [Encoding.i.injEq]
    exact ⟨Instruction.opcode_pack .., Instruction.rd_pack .., Instruction.funct3_pack ..,
      Instruction.rs1_pack .., immediate⟩
  | s opcode funct3 rs1 rs2 imm =>
    show Encoding.s _ _ _ _ _ = _
    rw [Encoding.s.injEq]
    exact ⟨Instruction.opcode_pack .., Instruction.funct3_pack .., Instruction.rs1_pack ..,
      Instruction.rs2_encodeS .., immediate⟩
  | b opcode funct3 rs1 rs2 imm =>
    show Encoding.b _ _ _ _ _ = _
    rw [Encoding.b.injEq]
    exact ⟨Instruction.opcode_pack .., Instruction.funct3_pack .., Instruction.rs1_pack ..,
      Instruction.rs2_encodeB .., immediate⟩
  | u opcode rd imm =>
    show Encoding.u _ _ _ = _
    rw [Encoding.u.injEq]
    exact ⟨Instruction.opcode_pack .., Instruction.rd_pack .., immediate⟩
  | j opcode rd imm =>
    show Encoding.j _ _ _ = _
    rw [Encoding.j.injEq]
    exact ⟨Instruction.opcode_pack .., Instruction.rd_pack .., immediate⟩

end Encoding

/-! ## Targets -/

namespace Word

/-- A sum of words, by the signed number that the second one is. -/
theorem toNat_add_signed (w : Word) (k : Word) :
    ((w + k).toNat : Int) = (w.toNat + k.toInt) % 0x100000000 := by
  have signed := k.toInt_eq_toNat_cond
  rw [BitVec.toNat_add]
  split at signed <;> omega

end Word

/-- How a word goes on from `pc`, or from a base, by the number that is its immediate: the sum, and
for `jalr` the even number below. -/
structure Instruction.GoesBy (inst : Instruction) (format : ImmediateFormat) (imm : Int) :
    Prop where
  branch (pc : Word) : format = .b →
    ((inst.branchTarget pc).toNat : Int) = (pc.toNat + imm) % 0x100000000
  jal (pc : Word) : format = .j →
    ((inst.jalTarget pc).toNat : Int) = (pc.toNat + imm) % 0x100000000
  jalr (base : Word) : format = .i →
    ((inst.jalrTarget base).toNat : Int) = (base.toNat + imm) % 0x100000000 / 2 * 2

theorem Instruction.goesBy_immediate (inst : Instruction) (format : ImmediateFormat) :
    inst.GoesBy format (inst.immediate format).toInt where
  branch pc is_b := by
    subst is_b
    exact pc.toNat_add_signed inst.immediateB
  jal pc is_j := by
    subst is_j
    exact pc.toNat_add_signed inst.immediateJ
  jalr base is_i := by
    subst is_i
    show (((base + inst.immediateI) &&& ~~~1#32).toNat : Int) = _
    have sum := base.toNat_add_signed inst.immediateI
    have bounded := (base + inst.immediateI).isLt
    rw [Word.and_not_one, BitVec.toNat_ofNat, Nat.mod_eq_of_lt (by omega)]
    show _ = (base.toNat + inst.immediateI.toInt) % 0x100000000 / 2 * 2
    omega

/-! ## The round trip -/

/-- The words of a format and their fields are the same thing. Fields with an immediate that the
format can hold are what is extracted from the word that they are packed into, and this word goes on
by the immediate. Conversely the fields and the immediate that are extracted from any word, in any
format, are of this kind, and packing them gives the word. -/
theorem Encoding.roundTrip :
    (∀ e : Encoding, e.format.Legal e.imm →
      e.word.encoding e.format = e ∧ e.word.GoesBy e.format e.imm) ∧
    ∀ (inst : Instruction) (format : ImmediateFormat),
      (inst.encoding format).word = inst ∧ (inst.encoding format).format = format ∧
        format.Legal (inst.encoding format).imm := by
  refine ⟨fun e legal => ⟨e.encoding_word legal, ?_⟩, fun inst format => ?_⟩
  · have goes := e.word.goesBy_immediate e.format
    rwa [e.toInt_immediate_word legal] at goes
  · have legal := inst.legal_immediate format
    refine ⟨inst.word_encoding format, ?_⟩
    cases format <;> exact ⟨rfl, legal⟩

/-- So with the fields of `beq x1, x2, -8`, from an address that the branch leaves below zero. -/
theorem Encoding.roundTrip_backwards :
    let e : Encoding := .b 0b1100011 0 1 2 (-8)
    e.format.Legal e.imm ∧ e.word = 0xFE20_8CE3 ∧ e.word.encoding .b = e ∧
      ((e.word.branchTarget 4).toNat : Int) = 0xFFFF_FFFC := by
  intro e
  have legal : e.format.Legal e.imm := by decide
  obtain ⟨extracted, goes⟩ := Encoding.roundTrip.1 e legal
  exact ⟨legal, by decide, extracted, goes.branch 4 rfl⟩

end FiveStage
