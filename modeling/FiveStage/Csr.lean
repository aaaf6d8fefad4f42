import FiveStage.Word

/-!
# Control and status registers

The seven machine-mode registers of the system unit, and the rule that tells a read-only address.
-/

namespace FiveStage

/-- A control and status register. -/
inductive Csr where
  | mstatus
  | mtvec
  | mscratch
  | mepc
  | mcause
  | cycle
  | instret
  deriving DecidableEq, Repr

namespace Csr

def all : List Csr :=
  [mstatus, mtvec, mscratch, mepc, mcause, cycle, instret]

def address : Csr → Nat
  | mstatus => 0x300
  | mtvec => 0x305
  | mscratch => 0x340
  | mepc => 0x341
  | mcause => 0x342
  | cycle => 0xC00
  | instret => 0xC02

/-- The register at an address, if there is one. -/
def ofAddress? : Nat → Option Csr
  | 0x300 => some mstatus
  | 0x305 => some mtvec
  | 0x340 => some mscratch
  | 0x341 => some mepc
  | 0x342 => some mcause
  | 0xC00 => some cycle
  | 0xC02 => some instret
  | _ => none

/-- Whether an address lies in a read-only region: its bits 11 and 10 are both set. -/
def isReadOnlyAddress (address : Nat) : Bool :=
  address / 1024 % 4 == 3

def isReadOnly (r : Csr) : Bool :=
  isReadOnlyAddress r.address

@[simp]
theorem ofAddress?_address (r : Csr) : ofAddress? r.address = some r := by
  cases r <;> rfl

end Csr

end FiveStage
