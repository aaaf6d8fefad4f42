import FiveStage.Coprocessor.Interface

/-!
# Fixed-latency units

A unit that completes an operation in the last of `latency` cycles in which that same operation is
offered. Cycles in which nothing is offered pause the count, and a trap or another operation
abandons it.
-/

namespace FiveStage

/-- What a unit computes; no value means that it raises its exception line. -/
abbrev Operation := Offload → Option Word

/-- An operation that was offered and is not complete. -/
structure InFlight where
  offload : Offload
  /-- The cycles in which it was offered. -/
  elapsed : Nat
  deriving DecidableEq, Repr

/-- A unit with a fixed latency. -/
structure FixedLatencyUnit where
  name : String
  latency : Nat
  operation : Operation
  inFlight : Option InFlight

namespace FixedLatencyUnit

/-- An idle unit. A latency below one acts as one. -/
def create (name : String) (latency : Nat) (operation : Operation) : FixedLatencyUnit where
  name
  latency := max latency 1
  operation
  inFlight := none

/-- A unit that answers its first operand. -/
def passthrough (name : String) (latency : Nat) : FixedLatencyUnit :=
  create name latency fun req => some req.a

def isBusy (u : FixedLatencyUnit) : Bool :=
  u.inFlight.isSome

/-- The number of cycles in which `req` has been offered, this one included. -/
def presentations (u : FixedLatencyUnit) (req : Offload) : Nat :=
  match u.inFlight with
  | some f => if f.offload = req then f.elapsed + 1 else 1
  | none => 1

/-- The answer of a complete operation. -/
def completion (operation : Operation) (req : Offload) : CoprocessorResponse :=
  match operation req with
  | some data => { ready := true, data }
  | none => { ready := true, exception := true }

/-- One cycle of the unit. -/
def respond (u : FixedLatencyUnit) (req : Option Offload) :
    CoprocessorResponse × FixedLatencyUnit :=
  match req with
  | none => ({ ready := !u.isBusy }, u)
  | some req =>
      let elapsed := u.presentations req
      if elapsed < u.latency then
        ({}, { u with inFlight := some { offload := req, elapsed } })
      else
        (completion u.operation req, { u with inFlight := none })

def trapTaken (u : FixedLatencyUnit) : FixedLatencyUnit :=
  { u with inFlight := none }

def trapEvents (u : FixedLatencyUnit) : List Event :=
  match u.inFlight with
  | some f => [.aborted u.name f.elapsed]
  | none => []

instance : Coprocessor FixedLatencyUnit where
  respond := respond
  name := name
  trapTaken u _ := u.trapTaken
  trapEvents u _ := u.trapEvents

end FixedLatencyUnit

end FiveStage
