import FiveStage.Coprocessor.SystemUnit
import FiveStage.Instruction.Assembly
import FiveStage.Proofs.Instruction.BaseSet
import FiveStage.Proofs.Text.Separated

/-!
# Lines of assembly

A line is an instruction as its text has it: a mnemonic that settles the operation, and operands.
The instructions of the base set are lines, and so are those of the system opcode and of the three
coprocessors. Each of them has one word that stands for it (`Line.encode`). Lines with the same text
are the same (`Line.text_injective`).
-/

namespace FiveStage

open Lanes

/-! ## Mnemonics -/

/-- The words of the system opcode without operands. -/
inductive Privileged where
  | ecall
  | ebreak
  | mret
  | wfi
  deriving DecidableEq, Repr

/-- The computations of the single-precision unit. -/
inductive FloatOperation where
  | add
  | sub
  | mul
  | div
  deriving DecidableEq, Repr

/-- The operation of an instruction. -/
inductive Mnemonic where
  | lui
  | auipc
  | jal
  | jalr
  | branch (kind : BranchKind)
  | load (kind : LoadKind)
  | store (width : Width)
  | immediate (kind : ImmediateKind)
  | shift (kind : ShiftKind)
  | compute (op : Computation)
  | privileged (word : Privileged)
  | csr (op : CsrOperation) (immediate : Bool)
  | float (op : FloatOperation)
  | custom0
  | custom1
  deriving DecidableEq, Repr

namespace Mnemonic

def text : Mnemonic → String
  | lui => "lui"
  | auipc => "auipc"
  | jal => "jal"
  | jalr => "jalr"
  | branch .beq => "beq"
  | branch .bne => "bne"
  | branch .blt => "blt"
  | branch .bge => "bge"
  | branch .bltu => "bltu"
  | branch .bgeu => "bgeu"
  | load .lb => "lb"
  | load .lh => "lh"
  | load .lw => "lw"
  | load .lbu => "lbu"
  | load .lhu => "lhu"
  | store .byte => "sb"
  | store .half => "sh"
  | store .word => "sw"
  | immediate .addi => "addi"
  | immediate .slti => "slti"
  | immediate .sltiu => "sltiu"
  | immediate .xori => "xori"
  | immediate .ori => "ori"
  | immediate .andi => "andi"
  | shift .slli => "slli"
  | shift .srli => "srli"
  | shift .srai => "srai"
  | compute .add => "add"
  | compute .sub => "sub"
  | compute .sll => "sll"
  | compute .slt => "slt"
  | compute .sltu => "sltu"
  | compute .xor => "xor"
  | compute .srl => "srl"
  | compute .sra => "sra"
  | compute .or => "or"
  | compute .and => "and"
  | privileged .ecall => "ecall"
  | privileged .ebreak => "ebreak"
  | privileged .mret => "mret"
  | privileged .wfi => "wfi"
  | csr .write false => "csrrw"
  | csr .set false => "csrrs"
  | csr .clear false => "csrrc"
  | csr .write true => "csrrwi"
  | csr .set true => "csrrsi"
  | csr .clear true => "csrrci"
  | float .add => "fadd.s"
  | float .sub => "fsub.s"
  | float .mul => "fmul.s"
  | float .div => "fdiv.s"
  | custom0 => "custom0"
  | custom1 => "custom1"

def all : List Mnemonic :=
  [lui, auipc, jal, jalr] ++
    [BranchKind.beq, .bne, .blt, .bge, .bltu, .bgeu].map branch ++
    [LoadKind.lb, .lh, .lw, .lbu, .lhu].map load ++
    [Width.byte, .half, .word].map store ++
    [ImmediateKind.addi, .slti, .sltiu, .xori, .ori, .andi].map immediate ++
    [ShiftKind.slli, .srli, .srai].map shift ++
    [Computation.add, .sub, .sll, .slt, .sltu, .xor, .srl, .sra, .or, .and].map compute ++
    [Privileged.ecall, .ebreak, .mret, .wfi].map privileged ++
    [CsrOperation.write, .set, .clear].map (csr · false) ++
    [CsrOperation.write, .set, .clear].map (csr · true) ++
    [FloatOperation.add, .sub, .mul, .div].map float ++ [custom0, custom1]

/-- The operation that a text names. -/
def ofText? (s : String) : Option Mnemonic :=
  all.find? (·.text == s)

theorem mem_all (m : Mnemonic) : m ∈ all := by
  cases m with
  | branch kind => cases kind <;> decide
  | load kind => cases kind <;> decide
  | store width => cases width <;> decide
  | immediate kind => cases kind <;> decide
  | shift kind => cases kind <;> decide
  | compute op => cases op <;> decide
  | privileged word => cases word <;> decide
  | csr op immediate => cases op <;> cases immediate <;> decide
  | float op => cases op <;> decide
  | _ => decide

theorem ofText?_text : ∀ m ∈ all, ofText? m.text = some m := by
  decide

/-- No two operations have the same name. -/
theorem text_injective {m n : Mnemonic} (same : m.text = n.text) : m = n := by
  have read := ofText?_text m m.mem_all
  rw [same, ofText?_text n n.mem_all] at read
  exact (Option.some.inj read).symm

/-- Names contain no blank, and nothing that they leave open. -/
theorem blank_notMem_text : ∀ m ∈ all, ' ' ∉ m.text.toList := by
  decide

/-- How many operands an instruction is written with. -/
def arity : Mnemonic → Nat
  | privileged _ => 0
  | lui | auipc | jal | jalr | load _ | store _ => 2
  | _ => 3

end Mnemonic

/-! ## Operands -/

namespace Instruction

theorem fieldName_injective : ∀ {r s : BitVec 5}, fieldName r = fieldName s → r = s := by
  decide

theorem plain_fieldName : ∀ r : BitVec 5, Text.Plain (fieldName r) := by
  decide

section Numbers

variable {bits : Nat} {x y : BitVec bits}

theorem hexText_injective (same : Text.hex x.toNat = Text.hex y.toNat) : x = y :=
  BitVec.eq_of_toNat_eq (Text.hex_injective same)

theorem natText_injective (same : toString x.toNat = toString y.toNat) : x = y :=
  BitVec.eq_of_toNat_eq (Nat.repr_injective same)

theorem intText_injective (same : toString x.toInt = toString y.toInt) : x = y :=
  BitVec.eq_of_toInt_eq (Int.repr_injective same)

/-- An offset that counts half words is written in bytes. -/
theorem offsetText_injective (same : toString (2 * x.toInt) = toString (2 * y.toInt)) : x = y := by
  have doubled : 2 * x.toInt = 2 * y.toInt := Int.repr_injective same
  apply BitVec.eq_of_toInt_eq
  omega

end Numbers

theorem toList_addressOperand (offset : Word) (base : BitVec 5) :
    (addressOperand offset base).toList =
      (toString offset.toInt).toList ++ '(' :: (fieldName base ++ ")").toList := by
  simp [addressOperand]

theorem addressOperand_injective {offset offset' : Word} {base base' : BitVec 5}
    (same : addressOperand offset base = addressOperand offset' base') :
    offset = offset' ∧ base = base' := by
  have chars := congrArg String.toList same
  rw [toList_addressOperand, toList_addressOperand] at chars
  obtain ⟨first, rest⟩ :=
    Text.append_inj_of_notMem (Text.plain_int _).2 (Text.plain_int _).2 chars
  refine ⟨intText_injective (String.toList_inj.mp first), ?_⟩
  exact fieldName_injective ((String.append_left_inj ")").mp (String.toList_inj.mp rest))

theorem comma_notMem_addressOperand (offset : Word) (base : BitVec 5) :
    ',' ∉ (addressOperand offset base).toList := by
  rw [toList_addressOperand, String.toList_append, List.mem_append, List.mem_cons, List.mem_append]
  rintro (number | open' | register | close)
  · exact (Text.plain_int offset.toInt).1 number
  · cases open'
  · exact (plain_fieldName base).1 register
  · exact absurd close (by decide)

end Instruction

/-! ## Lines -/

open Instruction

namespace Rv32i

def mnemonic : Rv32i → Mnemonic
  | lui .. => .lui
  | auipc .. => .auipc
  | jal .. => .jal
  | jalr .. => .jalr
  | branch kind .. => .branch kind
  | load kind .. => .load kind
  | store width .. => .store width
  | immediate kind .. => .immediate kind
  | shift kind .. => .shift kind
  | compute op .. => .compute op

/-- The operands in the order in which they are written. -/
def operands : Rv32i → List String
  | lui rd imm | auipc rd imm => [fieldName rd, Text.hex imm.toNat]
  | jal rd offset => [fieldName rd, toString (2 * offset.toInt)]
  | jalr rd rs1 imm | load _ rd rs1 imm => [fieldName rd, addressOperand (imm.signExtend 32) rs1]
  | branch _ rs1 rs2 offset => [fieldName rs1, fieldName rs2, toString (2 * offset.toInt)]
  | store _ rs1 rs2 imm => [fieldName rs2, addressOperand (imm.signExtend 32) rs1]
  | immediate _ rd rs1 imm => [fieldName rd, fieldName rs1, toString imm.toInt]
  | shift _ rd rs1 amount => [fieldName rd, fieldName rs1, toString amount.toNat]
  | compute _ rd rs1 rs2 => [fieldName rd, fieldName rs1, fieldName rs2]

theorem signExtend_injective {x y : BitVec 12} (same : x.signExtend 32 = y.signExtend 32) :
    x = y := by
  have numbers := congrArg BitVec.toInt same
  rw [BitVec.toInt_signExtend_of_le (by decide), BitVec.toInt_signExtend_of_le (by decide)]
    at numbers
  exact BitVec.eq_of_toInt_eq numbers

/-- The operation and the operands are all there is to an instruction. -/
theorem eq_of_operands {i j : Rv32i} (operation : i.mnemonic = j.mnemonic)
    (same : i.operands = j.operands) : i = j := by
  cases i <;> cases j <;> cases operation <;>
    simp only [operands, List.cons.injEq, and_true] at same
  case lui.lui.refl | auipc.auipc.refl =>
    rw [fieldName_injective same.1, hexText_injective same.2]
  case jal.jal.refl =>
    rw [fieldName_injective same.1, offsetText_injective same.2]
  case jalr.jalr.refl | load.load.refl | store.store.refl =>
    obtain ⟨offset, base⟩ := addressOperand_injective same.2
    rw [fieldName_injective same.1, signExtend_injective offset, base]
  case branch.branch.refl =>
    rw [fieldName_injective same.1, fieldName_injective same.2.1, offsetText_injective same.2.2]
  case immediate.immediate.refl =>
    rw [fieldName_injective same.1, fieldName_injective same.2.1, intText_injective same.2.2]
  case shift.shift.refl =>
    rw [fieldName_injective same.1, fieldName_injective same.2.1, natText_injective same.2.2]
  case compute.compute.refl =>
    rw [fieldName_injective same.1, fieldName_injective same.2.1, fieldName_injective same.2.2]

end Rv32i

/-- An instruction as it is written. The last operand of an access to a control and status register
is a register or a number. -/
inductive Line where
  | base (i : Rv32i)
  | privileged (word : Privileged)
  | csr (op : CsrOperation) (immediate : Bool) (rd : BitVec 5) (address : BitVec 12)
      (source : BitVec 5)
  | float (op : FloatOperation) (rd rs1 rs2 : BitVec 5)
  | custom0 (rd rs1 rs2 : BitVec 5)
  | custom1 (rd rs1 rs2 : BitVec 5)
  deriving DecidableEq, Repr

namespace Line

def mnemonic : Line → Mnemonic
  | base i => i.mnemonic
  | privileged word => .privileged word
  | csr op immediate .. => .csr op immediate
  | float op .. => .float op
  | custom0 .. => .custom0
  | custom1 .. => .custom1

def operands : Line → List String
  | base i => i.operands
  | privileged _ => []
  | csr _ immediate rd address source =>
      [fieldName rd, Text.hex address.toNat,
        if immediate then toString source.toNat else fieldName source]
  | float _ rd rs1 rs2 =>
      ["f" ++ toString rd.toNat, "f" ++ toString rs1.toNat, "f" ++ toString rs2.toNat]
  | custom0 rd rs1 rs2 | custom1 rd rs1 rs2 => [fieldName rd, fieldName rs1, fieldName rs2]

/-- The text of a line. -/
def text (l : Line) : String :=
  if l.operands = [] then l.mnemonic.text else line l.mnemonic.text l.operands

theorem floatText_injective {r s : BitVec 5}
    (same : "f" ++ toString r.toNat = "f" ++ toString s.toNat) : r = s :=
  natText_injective ((String.append_right_inj "f").mp same)

theorem comma_notMem_operands (l : Line) : ∀ s ∈ l.operands, ',' ∉ s.toList := by
  have register (r : BitVec 5) := (plain_fieldName r).1
  have float (r : BitVec 5) : ',' ∉ ("f" ++ toString r.toNat).toList :=
    (Text.Plain.append (by decide) (Text.plain_nat r.toNat)).1
  have nat (n : Nat) := (Text.plain_nat n).1
  have int (n : Int) := (Text.plain_int n).1
  have hex (n : Nat) := (Text.plain_hex n).1
  cases l with
  | base i =>
    cases i <;>
      simp only [operands, Rv32i.operands, List.forall_mem_cons, register, nat, int, hex,
        comma_notMem_addressOperand, not_false_iff, List.not_mem_nil, false_implies, implies_true,
        and_self]
  | privileged word => simp [operands]
  | csr op immediate rd address source =>
    cases immediate <;>
      simp only [operands, List.forall_mem_cons, register, nat, hex, not_false_iff, and_self,
        List.not_mem_nil, false_implies, implies_true, Bool.false_eq_true, if_true, if_false]
  | _ =>
    simp only [operands, List.forall_mem_cons, register, float, not_false_iff, and_self,
      List.not_mem_nil, false_implies, implies_true]

theorem length_operands (l : Line) : l.operands.length = l.mnemonic.arity := by
  cases l with
  | base i => cases i <;> rfl
  | _ => rfl

/-- The operation and the operands are all there is to a line. -/
theorem eq_of_operands {l l' : Line} (operation : l.mnemonic = l'.mnemonic)
    (same : l.operands = l'.operands) : l = l' := by
  cases l <;> cases l'
  case base.base => exact congrArg base (Rv32i.eq_of_operands operation same)
  case base.privileged i _ | base.csr i _ _ _ _ _ | base.float i _ _ _ _ | base.custom0 i _ _ _ |
      base.custom1 i _ _ _ => cases i <;> cases operation
  case privileged.base _ j | csr.base _ _ _ _ _ j | float.base _ _ _ _ j | custom0.base _ _ _ j |
      custom1.base _ _ _ j => cases j <;> cases operation
  case privileged.privileged => exact congrArg privileged (Mnemonic.privileged.inj operation)
  all_goals cases operation <;> simp only [operands, List.cons.injEq, and_true] at same
  case csr.csr.refl op immediate rd address source rd' address' source' =>
    obtain ⟨destination, register, operand⟩ := same
    have source_eq : source = source' := by
      cases immediate with
      | false => exact fieldName_injective operand
      | true => exact natText_injective operand
    rw [fieldName_injective destination, hexText_injective register, source_eq]
  case float.float.refl =>
    rw [floatText_injective same.1, floatText_injective same.2.1, floatText_injective same.2.2]
  case custom0.custom0.refl | custom1.custom1.refl =>
    rw [fieldName_injective same.1, fieldName_injective same.2.1, fieldName_injective same.2.2]

/-- The operation is what stands before the first blank. -/
theorem takeWhile_text (l : Line) :
    l.text.toList.takeWhile (· != ' ') = l.mnemonic.text.toList := by
  have unbroken := Mnemonic.blank_notMem_text l.mnemonic l.mnemonic.mem_all
  unfold text
  split
  · exact Text.takeWhile_of_notMem unbroken
  · unfold line
    rw [String.toList_append, String.toList_append, List.append_assoc]
    exact Text.takeWhile_append unbroken _

/-- Lines with the same text are the same. -/
theorem text_injective {l l' : Line} (same : l.text = l'.text) : l = l' := by
  have operation : l.mnemonic = l'.mnemonic := by
    apply Mnemonic.text_injective
    rw [← String.toList_inj, ← takeWhile_text, ← takeWhile_text, same]
  have sameLength : l.operands.length = l'.operands.length := by
    rw [length_operands, length_operands, operation]
  apply eq_of_operands operation
  by_cases bare : l.operands = []
  · rw [bare] at sameLength ⊢
    exact (List.length_eq_zero_iff.mp sameLength.symm).symm
  · have bare' : ¬ l'.operands = [] := by
      intro none
      rw [none] at sameLength
      exact bare (List.length_eq_zero_iff.mp sameLength)
    unfold text at same
    rw [if_neg bare, if_neg bare', operation] at same
    exact Text.intercalate_injective l.comma_notMem_operands l'.comma_notMem_operands sameLength
      ((String.append_right_inj _).mp same)

/-- No line is written like a word that is none. -/
theorem text_ne (l : Line) : l.text ≠ "unknown" ∧ l.text ≠ "fence" := by
  have names : ∀ m ∈ Mnemonic.all, m.text ≠ "unknown" ∧ m.text ≠ "fence" := by decide
  have name {s : String} (unbroken : s.toList.takeWhile (· != ' ') = s.toList)
      (same : l.text = s) : l.mnemonic.text = s := by
    rw [← String.toList_inj, ← l.takeWhile_text, same, unbroken]
  obtain ⟨unknown, fence⟩ := names l.mnemonic l.mnemonic.mem_all
  exact ⟨fun same => unknown (name (by decide) same), fun same => fence (name (by decide) same)⟩

end Line

/-! ## Words -/

def Privileged.encode : Privileged → Instruction
  | ecall => Instruction.ecall
  | ebreak => Instruction.ebreak
  | mret => Instruction.mret
  | wfi => Instruction.wfi

/-- The code of an access to a control and status register in the `funct3` field. -/
def CsrOperation.funct3 (op : CsrOperation) (immediate : Bool) : BitVec 3 :=
  let form : BitVec 3 := if immediate then 4 else 0
  match op with
  | write => form + 1
  | set => form + 2
  | clear => form + 3

def FloatOperation.funct7 : FloatOperation → BitVec 7
  | add => 0
  | sub => 4
  | mul => 8
  | div => 12

/-- The word of a line. Fields that do not matter are zero in it. -/
def Line.encode : Line → Instruction
  | base i => i.encode
  | privileged word => word.encode
  | csr op immediate rd address source =>
      encodeI address source (op.funct3 immediate) rd Opcode.system.bits
  | float op rd rs1 rs2 => encodeR op.funct7 rs2 rs1 0 rd Opcode.opFp.bits
  | custom0 rd rs1 rs2 => encodeR 0 rs2 rs1 0 rd Opcode.custom0.bits
  | custom1 rd rs1 rs2 => encodeR 0 rs2 rs1 0 rd Opcode.custom1.bits

end FiveStage
