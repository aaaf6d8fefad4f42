import FiveStage.Proofs.Coprocessor.ReferenceBank

/-!
# Hidden registers

The counters of the system unit tell the time, and whoever compares runs that differ in time has to
hide some of them. `SystemUnit.Clears` is said of a map that clears the registers that are hidden,
and `Bank.cleared` is what is left of a reference bank then. A bank answers like what is left of it,
as long as no instruction reads what is hidden.
-/

namespace FiveStage

namespace SystemUnit

variable {u v : SystemUnit} {hidden : Csr → Prop}

/-- The map clears the registers that are hidden, and nothing else. No instruction writes them. -/
structure Clears (clear : SystemUnit → SystemUnit) (hidden : Csr → Prop) : Prop where
  eq_iff : ∀ u v, clear u = clear v ↔ AgreesBut hidden u v
  twice : ∀ u, clear (clear u) = clear u
  fixed : ∀ r, hidden r → r.isReadOnly = true

theorem AgreesBut.counted (agree : AgreesBut hidden u v) :
    AgreesBut hidden { u with cycle := u.cycle + 1 } { v with cycle := v.cycle + 1 } := by
  intro r visible
  have same := agree r visible
  cases r <;> simp_all [read]

theorem AgreesBut.retired (agree : AgreesBut hidden u v) :
    AgreesBut hidden u.retired v.retired := by
  intro r visible
  have same := agree r visible
  cases r <;> simp_all [read, SystemUnit.retired]

theorem AgreesBut.trapTaken (agree : AgreesBut hidden u v) (trap : Trap) :
    AgreesBut hidden (u.trapTaken trap) (v.trapTaken trap) := by
  intro r visible
  have same := agree r visible
  cases r <;> simp_all [read, SystemUnit.trapTaken]

theorem AgreesBut.respond (agree : AgreesBut hidden u v)
    (fixed : ∀ r, hidden r → r.isReadOnly = true) {offload : Option Offload}
    (blind : ∀ req ∈ offload, req.instruction.slot? = some .cp0 ∧
      ∀ r, hidden r → ¬ req.instruction.reads r) :
    (u.respond offload).1 = (v.respond offload).1 ∧
      AgreesBut hidden (u.respond offload).2 (v.respond offload).2 := by
  cases offload with
  | none => exact ⟨rfl, agree.counted⟩
  | some req =>
    obtain ⟨owned, blind⟩ := blind req rfl
    exact agree.counted.execute fixed owned blind

end SystemUnit

namespace SystemUnit.Clears

variable {clear : SystemUnit → SystemUnit} {hidden : Csr → Prop} (clears : Clears clear hidden)
include clears

theorem agrees (u : SystemUnit) : AgreesBut hidden u (clear u) :=
  (clears.eq_iff u (clear u)).mp (clears.twice u).symm

/-- What keeps units in agreement leads to the same from what is left of a unit. -/
theorem step {f : SystemUnit → SystemUnit}
    (keeps : ∀ u v, AgreesBut hidden u v → AgreesBut hidden (f u) (f v)) (u : SystemUnit) :
    clear (f u) = clear (f (clear u)) :=
  (clears.eq_iff _ _).mpr (keeps u (clear u) (clears.agrees u))

end SystemUnit.Clears

/-- The two counters are read-only, and clearing them hides them. -/
theorem SystemUnit.clears_uncounted :
    Clears uncounted fun r => r = .cycle ∨ r = .instret where
  eq_iff _ _ := uncounted_eq_iff
  twice _ := rfl
  fixed := by rintro r (rfl | rfl) <;> rfl

namespace Bank

/-- The bank with its system unit cleared. -/
def cleared (clear : SystemUnit → SystemUnit) (bank : Bank ReferenceUnit) : Bank ReferenceUnit :=
  bank.map (Sum.map clear id)

theorem name_cleared (clear : SystemUnit → SystemUnit) (bank : Bank ReferenceUnit) (slot : Slot) :
    (bank.cleared clear).name slot = bank.name slot := by
  have named (unit : ReferenceUnit) :
      Coprocessor.name (Sum.map clear id unit) = Coprocessor.name unit := by
    cases unit <;> rfl
  unfold name cleared
  rw [PerSlot.get_map, named]

/-- A cycle in which nothing is offered changes nothing but the cycle counter. -/
theorem IsReference.cycle_none_eq {bank : Bank ReferenceUnit} {operation : Operation}
    {csrs : SystemUnit} (h : bank.IsReference operation csrs) :
    (bank.cycle none none).2 = { bank with cp0 := .inl { csrs with cycle := csrs.cycle + 1 } } := by
  obtain ⟨cp0, ⟨u1, cp1, -⟩, ⟨u2, cp2, -⟩, ⟨u3, cp3, -⟩⟩ := h
  obtain ⟨b0, b1, b2, b3⟩ := bank
  cases cp0
  cases cp1
  cases cp2
  cases cp3
  rfl

variable {clear : SystemUnit → SystemUnit} {hidden : Csr → Prop}
  (clears : SystemUnit.Clears clear hidden)
include clears

theorem cleared_cleared (bank : Bank ReferenceUnit) :
    (bank.cleared clear).cleared clear = bank.cleared clear := by
  have twice (unit : ReferenceUnit) :
      Sum.map clear id (Sum.map clear id unit) = Sum.map clear id unit := by
    cases unit with
    | inl u => exact congrArg Sum.inl (clears.twice u)
    | inr u => rfl
  exact PerSlot.ext (twice _) (twice _) (twice _) (twice _)

theorem cleared_retired (bank : Bank ReferenceUnit) :
    bank.retired.cleared clear = (bank.cleared clear).retired.cleared clear := by
  have told (unit : ReferenceUnit) : Sum.map clear id (Coprocessor.retired unit) =
      Sum.map clear id (Coprocessor.retired (Sum.map clear id unit)) := by
    cases unit with
    | inl u => exact congrArg Sum.inl (clears.step (fun _ _ agree => agree.retired) u)
    | inr u => rfl
  exact PerSlot.ext (told _) (told _) (told _) (told _)

theorem cleared_trapTaken (bank : Bank ReferenceUnit) (trap : Trap) :
    (bank.trapTaken trap).cleared clear = ((bank.cleared clear).trapTaken trap).cleared clear := by
  have told (unit : ReferenceUnit) : Sum.map clear id (Coprocessor.trapTaken unit trap) =
      Sum.map clear id (Coprocessor.trapTaken (Sum.map clear id unit) trap) := by
    cases unit with
    | inl u => exact congrArg Sum.inl (clears.step (fun _ _ agree => agree.trapTaken trap) u)
    | inr u => rfl
  exact PerSlot.ext (told _) (told _) (told _) (told _)

/-- What is left of a bank answers alike, and so goes on, unless an instruction asks for what is
hidden. -/
theorem IsReference.cycle_cleared {bank : Bank ReferenceUnit} {operation : Operation}
    {csrs : SystemUnit} (h : bank.IsReference operation csrs) {select : Option Slot}
    {offload : Option Offload}
    (blind : ∀ req ∈ offered select offload .cp0, req.instruction.slot? = some .cp0 ∧
      ∀ r, hidden r → ¬ req.instruction.reads r) :
    (bank.cycle select offload).1 = ((bank.cleared clear).cycle select offload).1 ∧
      (bank.cycle select offload).2.cleared clear =
        ((bank.cleared clear).cycle select offload).2.cleared clear := by
  obtain ⟨cp0, ⟨u1, cp1, -⟩, ⟨u2, cp2, -⟩, ⟨u3, cp3, -⟩⟩ := h
  obtain ⟨b0, b1, b2, b3⟩ := bank
  cases cp0
  cases cp1
  cases cp2
  cases cp3
  obtain ⟨answer, agree⟩ := (clears.agrees csrs).respond clears.fixed blind
  constructor
  · cases select with
    | none => rfl
    | some slot =>
      cases slot with
      | cp0 => exact answer
      | _ => rfl
  · refine PerSlot.ext ?_ rfl rfl rfl
    exact congrArg Sum.inl ((clears.eq_iff _ _).mpr agree)

theorem IsReference.cycle_none_cleared {bank : Bank ReferenceUnit} {operation : Operation}
    {csrs : SystemUnit} (h : bank.IsReference operation csrs) :
    (bank.cycle none none).2.cleared clear =
      ((bank.cleared clear).cycle none none).2.cleared clear :=
  (h.cycle_cleared clears fun _ offered => by cases offered).2

end Bank

end FiveStage
