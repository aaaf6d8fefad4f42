import FiveStage.Event

/-!
# The coprocessor interface

A coprocessor is a state machine behind a ready/valid handshake. Each cycle it is shown a request
or none, and answers. It learns when an instruction retires and when the pipeline takes a trap. How
long an operation takes shows only in `ready` being low.
-/

namespace FiveStage

/-- An instruction offered to a coprocessor with its two operands. -/
structure Offload where
  instruction : Instruction
  a : Word
  b : Word
  deriving DecidableEq, Repr

/-- The answer of a coprocessor for one cycle. -/
structure CoprocessorResponse where
  /-- The offered operation is complete, or the unit is idle. -/
  ready : Bool := false
  /-- The result, when the operation is complete. -/
  data : Word := 0
  exception : Bool := false
  deriving DecidableEq, Repr

/-- A coprocessor with states of type `σ`. -/
class Coprocessor (σ : Type) where
  /-- One cycle, in which an operation may be offered. -/
  respond : σ → Option Offload → CoprocessorResponse × σ
  name : σ → String
  retired : σ → σ := id
  /-- The pipeline took a trap in this cycle. -/
  trapTaken : σ → Trap → σ := fun u _ => u
  /-- What the unit logs about the trap it is told of. -/
  trapEvents : σ → Trap → List Event := fun _ _ => []

/-- Units of two kinds side by side: a bank may mix them. -/
instance {σ τ : Type} [Coprocessor σ] [Coprocessor τ] : Coprocessor (σ ⊕ τ) where
  respond
    | .inl u, req => (Coprocessor.respond u req).map id .inl
    | .inr u, req => (Coprocessor.respond u req).map id .inr
  name
    | .inl u => Coprocessor.name u
    | .inr u => Coprocessor.name u
  retired
    | .inl u => .inl (Coprocessor.retired u)
    | .inr u => .inr (Coprocessor.retired u)
  trapTaken
    | .inl u, trap => .inl (Coprocessor.trapTaken u trap)
    | .inr u, trap => .inr (Coprocessor.trapTaken u trap)
  trapEvents
    | .inl u, trap => Coprocessor.trapEvents u trap
    | .inr u, trap => Coprocessor.trapEvents u trap

end FiveStage
