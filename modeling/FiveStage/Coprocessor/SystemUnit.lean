import FiveStage.Coprocessor.Interface
import FiveStage.Csr

/-!
# The system unit

The coprocessor for the system opcode. It reads and writes control and status registers, counts
cycles and retired instructions, and records traps. It answers in the cycle in which it is asked.

The exception line rises for every word without a register operation (environment calls,
breakpoints, trap returns and the reserved code), for an address without a register, and for a
write to a read-only register. Such an instruction changes nothing.
-/

namespace FiveStage

/-- The control and status registers. -/
@[ext]
structure SystemUnit where
  mstatus : Word := 0
  mtvec : Word := 0
  mscratch : Word := 0
  mepc : Word := 0
  mcause : Word := 0
  cycle : Word := 0
  instret : Word := 0
  deriving DecidableEq, Repr

/-- What an instruction does to a control and status register. -/
inductive CsrOperation where
  | write
  | set
  | clear
  deriving DecidableEq, Repr

namespace CsrOperation

/-- The operation of a `funct3` value. The immediate forms share the low two bits of the register
forms; two values stand for no operation. -/
def ofFunct3? : Nat → Option CsrOperation
  | 1 | 5 => some write
  | 2 | 6 => some set
  | 3 | 7 => some clear
  | _ => none

def apply (op : CsrOperation) (old source : Word) : Word :=
  match op with
  | write => source
  | set => old ||| source
  | clear => old &&& ~~~source

end CsrOperation

namespace SystemUnit

def read (u : SystemUnit) : Csr → Word
  | .mstatus => u.mstatus
  | .mtvec => u.mtvec
  | .mscratch => u.mscratch
  | .mepc => u.mepc
  | .mcause => u.mcause
  | .cycle => u.cycle
  | .instret => u.instret

/-- The unit after a value is stored in a register. -/
def write (u : SystemUnit) (r : Csr) (v : Word) : SystemUnit :=
  match r with
  | .mstatus => { u with mstatus := v }
  | .mtvec => { u with mtvec := v }
  | .mscratch => { u with mscratch := v }
  | .mepc => { u with mepc := v }
  | .mcause => { u with mcause := v }
  | .cycle => { u with cycle := v }
  | .instret => { u with instret := v }

theorem read_write (u : SystemUnit) (r t : Csr) (v : Word) :
    (u.write r v).read t = if r = t then v else u.read t := by
  cases r <;> cases t <;> rfl

/-- The operand of the operation: the first register operand, or in the immediate forms the number
in the register field. -/
def source (req : Offload) : Word :=
  if req.instruction.funct3.toNat < 4 then req.a else req.instruction.rs1.setWidth 32

/-- Whether the operation writes. Setting and clearing do not when the register field is zero. -/
def writes (op : CsrOperation) (inst : Instruction) : Bool :=
  op == .write || inst.rs1 != 0

/-- The answer that raises the exception line. -/
def raised : CoprocessorResponse :=
  { ready := true, exception := true }

/-- Executes one instruction. -/
def execute (u : SystemUnit) (req : Offload) : CoprocessorResponse × SystemUnit :=
  match CsrOperation.ofFunct3? req.instruction.funct3.toNat,
      Csr.ofAddress? req.instruction.csr.toNat with
  | some op, some r =>
      let old := u.read r
      if writes op req.instruction then
        if r.isReadOnly then (raised, u)
        else ({ ready := true, data := old }, u.write r (op.apply old (source req)))
      else ({ ready := true, data := old }, u)
  | _, _ => (raised, u)

/-- One cycle of the unit. The cycle counter moves first. -/
def respond (u : SystemUnit) (req : Option Offload) : CoprocessorResponse × SystemUnit :=
  let u := { u with cycle := u.cycle + 1 }
  match req with
  | some req => u.execute req
  | none => ({ ready := true }, u)

def retired (u : SystemUnit) : SystemUnit :=
  { u with instret := u.instret + 1 }

def trapTaken (u : SystemUnit) (trap : Trap) : SystemUnit :=
  { u with mepc := trap.pc, mcause := trap.cause.mcause }

instance : Coprocessor SystemUnit where
  respond := respond
  name _ := "system"
  retired := retired
  trapTaken := trapTaken

end SystemUnit

end FiveStage
