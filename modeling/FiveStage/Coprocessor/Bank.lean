import FiveStage.Coprocessor.Interface

/-!
# The coprocessor bank

The four units together. Every unit is clocked once a cycle; at most one is offered an operation.
-/

namespace FiveStage

/-- Four units, one for each slot. -/
abbrev Bank (σ : Type) := PerSlot σ

namespace Bank

variable {σ : Type} [Coprocessor σ]

/-- What the unit in a slot is offered when `offload` is addressed to `select`. -/
def offered (select : Option Slot) (offload : Option Offload) (slot : Slot) : Option Offload :=
  if select = some slot then offload else none

/-- One cycle of all units, with the answer of the addressed one. When none is addressed, the
answer is that nothing is ready. -/
def cycle (bank : Bank σ) (select : Option Slot) (offload : Option Offload) :
    CoprocessorResponse × Bank σ :=
  let r0 := Coprocessor.respond bank.cp0 (offered select offload .cp0)
  let r1 := Coprocessor.respond bank.cp1 (offered select offload .cp1)
  let r2 := Coprocessor.respond bank.cp2 (offered select offload .cp2)
  let r3 := Coprocessor.respond bank.cp3 (offered select offload .cp3)
  let answers : PerSlot CoprocessorResponse := ⟨r0.1, r1.1, r2.1, r3.1⟩
  ((select.map answers.get).getD {}, ⟨r0.2, r1.2, r2.2, r3.2⟩)

/-- The bank after every unit is told that an instruction retired. -/
def retired (bank : Bank σ) : Bank σ :=
  bank.map Coprocessor.retired

/-- The bank after every unit is told of a trap. -/
def trapTaken (bank : Bank σ) (trap : Trap) : Bank σ :=
  bank.map (Coprocessor.trapTaken · trap)

def trapEvents (bank : Bank σ) (trap : Trap) : List Event :=
  bank.toList.flatMap (Coprocessor.trapEvents · trap)

def name (bank : Bank σ) (slot : Slot) : String :=
  Coprocessor.name (bank.get slot)

def text (bank : Bank σ) : String :=
  Text.list (bank.toList.map fun u => Text.quoted (Coprocessor.name u))

/-- The answer of a cycle is that of the addressed unit. -/
theorem cycle_answer (bank : Bank σ) (slot : Slot) (offload : Option Offload) :
    (bank.cycle (some slot) offload).1 = (Coprocessor.respond (bank.get slot) offload).1 := by
  cases slot <;> rfl

/-- After a cycle each unit is where its own answer to what it was offered leaves it. -/
theorem get_cycle (bank : Bank σ) (select : Option Slot) (offload : Option Offload) (slot : Slot) :
    (bank.cycle select offload).2.get slot =
      (Coprocessor.respond (bank.get slot) (offered select offload slot)).2 := by
  cases slot <;> rfl

end Bank

end FiveStage
