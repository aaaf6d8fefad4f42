import FiveStage.Instruction.Fields

/-!
# Coprocessor slots

The four slots CP0 to CP3, the instructions that belong to them, and families indexed by them.
-/

namespace FiveStage

/-- A coprocessor slot. -/
inductive Slot where
  /-- The system unit. -/
  | cp0
  /-- The floating-point unit. -/
  | cp1
  /-- The first accelerator. -/
  | cp2
  /-- The second accelerator. -/
  | cp3
  deriving DecidableEq, Repr

namespace Slot

def all : List Slot :=
  [cp0, cp1, cp2, cp3]

theorem mem_all (s : Slot) : s ∈ all := by
  cases s <;> decide

def index : Slot → Nat
  | cp0 => 0
  | cp1 => 1
  | cp2 => 2
  | cp3 => 3

/-- The slot with a given number, if there is one. -/
def ofIndex? : Nat → Option Slot
  | 0 => some cp0
  | 1 => some cp1
  | 2 => some cp2
  | 3 => some cp3
  | _ => none

/-- The label of a slot, as in `CP2`. -/
def label (s : Slot) : String :=
  "CP" ++ toString s.index

end Slot

/-- The coprocessor that owns an instruction, if one does. -/
def Instruction.slot? (inst : Instruction) : Option Slot :=
  match inst.major? with
  | some .system => some .cp0
  | some .opFp => some .cp1
  | some .custom0 => some .cp2
  | some .custom1 => some .cp3
  | _ => none

/-- One value for each slot. -/
@[ext]
structure PerSlot (α : Type) where
  cp0 : α
  cp1 : α
  cp2 : α
  cp3 : α
  deriving DecidableEq, Repr

namespace PerSlot

variable {α β : Type}

def get (p : PerSlot α) : Slot → α
  | .cp0 => p.cp0
  | .cp1 => p.cp1
  | .cp2 => p.cp2
  | .cp3 => p.cp3

def const (a : α) : PerSlot α :=
  ⟨a, a, a, a⟩

def map (f : α → β) (p : PerSlot α) : PerSlot β :=
  ⟨f p.cp0, f p.cp1, f p.cp2, f p.cp3⟩

/-- The family after a function is applied in one slot. -/
def modify (p : PerSlot α) (s : Slot) (f : α → α) : PerSlot α :=
  match s with
  | .cp0 => { p with cp0 := f p.cp0 }
  | .cp1 => { p with cp1 := f p.cp1 }
  | .cp2 => { p with cp2 := f p.cp2 }
  | .cp3 => { p with cp3 := f p.cp3 }

def toList (p : PerSlot α) : List α :=
  [p.cp0, p.cp1, p.cp2, p.cp3]

/-- The family with the given values, if there are exactly four. -/
def ofList? : List α → Option (PerSlot α)
  | [a, b, c, d] => some ⟨a, b, c, d⟩
  | _ => none

@[simp]
theorem get_map (f : α → β) (p : PerSlot α) (s : Slot) : (p.map f).get s = f (p.get s) := by
  cases s <;> rfl

end PerSlot

end FiveStage
