import FiveStage.Coprocessor.Interface

/-!
# What happens to a coprocessor

A coprocessor is clocked once in a cycle, with an operation or without, and is told of retired
instructions and of traps. A history is what has happened to it, in order. A register that every
event either advances by one or leaves alone counts events, as far as a word can (`counter_after`).
-/

namespace FiveStage

/-- Something that happens to a coprocessor. -/
inductive Stimulus where
  | clocked (offload : Option Offload)
  | retired
  | trapTaken (trap : Trap)
  deriving DecidableEq, Repr

namespace Stimulus

def isClocked : Stimulus → Bool
  | clocked _ => true
  | _ => false

def isRetired : Stimulus → Bool
  | retired => true
  | _ => false

end Stimulus

namespace Coprocessor

variable {σ : Type} [Coprocessor σ]

/-- The unit after something has happened to it. -/
def step (u : σ) : Stimulus → σ
  | .clocked offload => (respond u offload).2
  | .retired => retired u
  | .trapTaken trap => trapTaken u trap

/-- The unit after a history. -/
def after (u : σ) (history : List Stimulus) : σ :=
  history.foldl step u

theorem after_cons (u : σ) (first : Stimulus) (rest : List Stimulus) :
    after u (first :: rest) = after (step u first) rest := rfl

theorem after_append (u : σ) (history more : List Stimulus) :
    after u (history ++ more) = after (after u history) more :=
  List.foldl_append

/-- A register that some events advance by one, and no other changes, counts those events. -/
theorem counter_after (counter : σ → Word) (counts : Stimulus → Bool)
    (advances : ∀ u stimulus,
      counter (step u stimulus) = if counts stimulus then counter u + 1 else counter u)
    (u : σ) (history : List Stimulus) :
    counter (after u history) = counter u + BitVec.ofNat 32 (history.countP counts) := by
  induction history generalizing u with
  | nil => exact (BitVec.add_zero _).symm
  | cons first rest ih =>
    rw [after_cons, ih, advances, List.countP_cons]
    by_cases counted : counts first = true
    · rw [if_pos counted, if_pos counted, Nat.add_comm, BitVec.ofNat_add, BitVec.add_assoc]
      rfl
    · rw [if_neg counted, if_neg counted, Nat.add_zero]

end Coprocessor

end FiveStage
