/-!
# Pipeline stages

The five stages in their order along the pipeline.
-/

namespace FiveStage

/-- A pipeline stage. -/
inductive Stage where
  | fetch
  | decode
  | execute
  | memory
  | writeback
  deriving DecidableEq, Repr

namespace Stage

/-- All stages, the youngest first. -/
def all : List Stage :=
  [fetch, decode, execute, memory, writeback]

/-- How far along the pipeline a stage is. -/
def age : Stage → Nat
  | fetch => 0
  | decode => 1
  | execute => 2
  | memory => 3
  | writeback => 4

instance : LE Stage := ⟨fun a b => a.age ≤ b.age⟩

instance : LT Stage := ⟨fun a b => a.age < b.age⟩

instance (a b : Stage) : Decidable (a ≤ b) := inferInstanceAs (Decidable (a.age ≤ b.age))

instance (a b : Stage) : Decidable (a < b) := inferInstanceAs (Decidable (a.age < b.age))

theorem le_antisymm {a b : Stage} (young : a ≤ b) (old : b ≤ a) : a = b := by
  have same : a.age = b.age := Nat.le_antisymm young old
  cases a <;> cases b <;> first | rfl | cases same

def feeder? : Stage → Option Stage
  | fetch => none
  | decode => some fetch
  | execute => some decode
  | memory => some execute
  | writeback => some memory

theorem le_of_feeder {stage before : Stage} (feeds : stage.feeder? = some before) :
    before ≤ stage := by
  cases stage with
  | fetch => cases feeds
  | _ =>
    cases feeds
    exact Nat.le_succ _

/-- The short name of a stage, in mixed case. -/
def name : Stage → String
  | fetch => "If"
  | decode => "Id"
  | execute => "Ex"
  | memory => "Mem"
  | writeback => "Wb"

/-- The short name of a stage, in capitals. -/
def label : Stage → String
  | fetch => "IF"
  | decode => "ID"
  | execute => "EX"
  | memory => "MEM"
  | writeback => "WB"

end Stage

end FiveStage
