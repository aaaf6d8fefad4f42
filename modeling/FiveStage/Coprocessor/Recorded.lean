import FiveStage.Coprocessor.Interface

/-!
# Recorded units

A coprocessor with a record of everything that happened to it. It behaves like the unit inside, so
what is said about its record is said about any unit.
-/

namespace FiveStage

/-- Something that happened to a unit. -/
inductive UnitEvent where
  /-- A cycle: what the unit was offered, if anything, and how it answered. -/
  | cycle (offload : Option Offload) (response : CoprocessorResponse)
  | retired
  /-- It was told of a trap. -/
  | trapTaken (trap : Trap)
  deriving DecidableEq, Repr

def UnitEvent.offload? : UnitEvent → Option Offload
  | cycle offload _ => offload
  | _ => none

def UnitEvent.isCycle : UnitEvent → Bool
  | cycle .. => true
  | _ => false

/-- A unit and what happened to it. -/
structure RecordedUnit (σ : Type) where
  unit : σ
  /-- What happened so far, the latest first. -/
  record : List UnitEvent := []

namespace RecordedUnit

variable {σ : Type}

def history (u : RecordedUnit σ) : List UnitEvent :=
  u.record.reverse

def cycles (u : RecordedUnit σ) : Nat :=
  u.record.countP (·.isCycle)

theorem cycles_eq (u : RecordedUnit σ) : u.cycles = u.history.countP (·.isCycle) :=
  List.countP_reverse.symm

def offered (u : RecordedUnit σ) : List Offload :=
  u.history.filterMap (·.offload?)

/-- What happened since the unit was at `earlier`. -/
def since (u earlier : RecordedUnit σ) : List UnitEvent :=
  u.history.drop earlier.history.length

/-- The unit with one more event on record. -/
def note (u : RecordedUnit σ) (unit : σ) (event : UnitEvent) : RecordedUnit σ :=
  { unit, record := event :: u.record }

variable [Coprocessor σ]

instance : Coprocessor (RecordedUnit σ) where
  respond u offload :=
    let answer := Coprocessor.respond u.unit offload
    (answer.1, u.note answer.2 (.cycle offload answer.1))
  name u := Coprocessor.name u.unit
  retired u := u.note (Coprocessor.retired u.unit) .retired
  trapTaken u trap := u.note (Coprocessor.trapTaken u.unit trap) (.trapTaken trap)
  trapEvents u trap := Coprocessor.trapEvents u.unit trap

/-- The unit inside sees each offer and gives each answer. -/
theorem respond_eq (u : RecordedUnit σ) (offload : Option Offload) :
    (Coprocessor.respond u offload).1 = (Coprocessor.respond u.unit offload).1 ∧
      (Coprocessor.respond u offload).2.unit = (Coprocessor.respond u.unit offload).2 :=
  ⟨rfl, rfl⟩

/-- A cycle adds itself at the end. -/
theorem history_respond (u : RecordedUnit σ) (offload : Option Offload) :
    (Coprocessor.respond u offload).2.history =
      u.history ++ [.cycle offload (Coprocessor.respond u.unit offload).1] := by
  simp [history, Coprocessor.respond, note]

theorem history_retired (u : RecordedUnit σ) :
    (Coprocessor.retired u).history = u.history ++ [.retired] := by
  simp [history, Coprocessor.retired, note]

theorem history_trapTaken (u : RecordedUnit σ) (trap : Trap) :
    (Coprocessor.trapTaken u trap).history = u.history ++ [.trapTaken trap] := by
  simp [history, Coprocessor.trapTaken, note]

end RecordedUnit

end FiveStage
