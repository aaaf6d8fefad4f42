import FiveStage.Coprocessor.Bank
import FiveStage.Coprocessor.FixedLatencyUnit
import FiveStage.Coprocessor.SystemUnit
import FiveStage.FloatingPoint

/-!
# The reference bank

The system unit in CP0, single-precision arithmetic in CP1, and two units that hand their first
operand back in CP2 and CP3. The arithmetic is a unit of fixed latency for the sum, difference,
product and quotient of two 32-bit floating-point data: the `funct7` field chooses among them, and
any other value raises the exception line. What a host computes for these may differ in the bits of
a NaN, so the bank takes the operation of CP1 as a parameter.
-/

namespace FiveStage

open FloatingPoint

/-- A binary operation on bit patterns of the 32-bit format. -/
def onBinary32 (op : Datum → Datum → Datum) (a b : Word) : Word :=
  BitVec.ofNat 32 (binary32.encode (op (binary32.decode a.toNat) (binary32.decode b.toNat)))

/-- The operation of the single-precision unit, with the one NaN of the arithmetic. -/
def singlePrecision : Operation := fun req =>
  match req.instruction.funct7.toNat with
  | 0 => some (onBinary32 binary32.add req.a req.b)
  | 4 => some (onBinary32 binary32.sub req.a req.b)
  | 8 => some (onBinary32 binary32.mul req.a req.b)
  | 12 => some (onBinary32 binary32.div req.a req.b)
  | _ => none

/-- The unit for single-precision arithmetic. -/
def FixedLatencyUnit.singlePrecision (latency : Nat)
    (operation : Operation := FiveStage.singlePrecision) : FixedLatencyUnit :=
  create "fpu" latency operation

/-- A unit of the reference bank. -/
abbrev ReferenceUnit := SystemUnit ⊕ FixedLatencyUnit

/-- The reference bank, with what CP1 computes. The latency of CP0 is not used: the system unit
answers at once. -/
def Bank.reference (latency : PerSlot Nat) (operation : Operation := singlePrecision) :
    Bank ReferenceUnit where
  cp0 := .inl {}
  cp1 := .inr (.singlePrecision latency.cp1 operation)
  cp2 := .inr (.passthrough "CP2" latency.cp2)
  cp3 := .inr (.passthrough "CP3" latency.cp3)

end FiveStage
