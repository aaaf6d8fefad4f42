/-!
# Reasons to stall and to flush

Why the instruction in a stage is held or emptied, and finite sets of such reasons.
-/

namespace FiveStage

/-- Why a stage is held. -/
inductive StallReason where
  /-- The operand of the decoding instruction is still being computed and is not forwarded. -/
  | rawHazard
  /-- The operand of the decoding instruction is still being loaded. -/
  | loadUseHazard
  | coprocessorNotReady
  | memoryNotReady
  /-- The environment asked for it. -/
  | externalStall
  deriving DecidableEq, Repr

namespace StallReason

def all : List StallReason :=
  [rawHazard, loadUseHazard, coprocessorNotReady, memoryNotReady, externalStall]

def name : StallReason → String
  | rawHazard => "RawHazard"
  | loadUseHazard => "LoadUseHazard"
  | coprocessorNotReady => "CoprocessorNotReady"
  | memoryNotReady => "MemoryNotReady"
  | externalStall => "ExternalStall"

end StallReason

/-- Why stages are emptied. -/
inductive FlushReason where
  /-- A taken branch or a jump, which fetch assumed to fall through. -/
  | branchMispredict
  | exception
  | interrupt
  deriving DecidableEq, Repr

namespace FlushReason

def all : List FlushReason :=
  [branchMispredict, exception, interrupt]

def name : FlushReason → String
  | branchMispredict => "BranchMispredict"
  | exception => "Exception"
  | interrupt => "Interrupt"

end FlushReason

/-- A set of stall reasons. -/
@[ext]
structure StallSet where
  rawHazard : Bool := false
  loadUseHazard : Bool := false
  coprocessorNotReady : Bool := false
  memoryNotReady : Bool := false
  externalStall : Bool := false
  deriving DecidableEq, Repr

namespace StallSet

def contains (s : StallSet) : StallReason → Bool
  | .rawHazard => s.rawHazard
  | .loadUseHazard => s.loadUseHazard
  | .coprocessorNotReady => s.coprocessorNotReady
  | .memoryNotReady => s.memoryNotReady
  | .externalStall => s.externalStall

def insert (s : StallSet) : StallReason → StallSet
  | .rawHazard => { s with rawHazard := true }
  | .loadUseHazard => { s with loadUseHazard := true }
  | .coprocessorNotReady => { s with coprocessorNotReady := true }
  | .memoryNotReady => { s with memoryNotReady := true }
  | .externalStall => { s with externalStall := true }

def toList (s : StallSet) : List StallReason :=
  StallReason.all.filter s.contains

def isEmpty (s : StallSet) : Bool :=
  s == {}

def ofList (reasons : List StallReason) : StallSet :=
  reasons.foldl insert {}

@[simp]
theorem contains_insert (s : StallSet) (r t : StallReason) :
    (s.insert r).contains t = (r == t || s.contains t) := by
  cases r <;> cases t <;> rfl

theorem ext_contains {s t : StallSet} (same : ∀ r, s.contains r = t.contains r) : s = t :=
  StallSet.ext (same .rawHazard) (same .loadUseHazard) (same .coprocessorNotReady)
    (same .memoryNotReady) (same .externalStall)

end StallSet

/-- A set of flush reasons. -/
@[ext]
structure FlushSet where
  branchMispredict : Bool := false
  exception : Bool := false
  interrupt : Bool := false
  deriving DecidableEq, Repr

namespace FlushSet

def contains (s : FlushSet) : FlushReason → Bool
  | .branchMispredict => s.branchMispredict
  | .exception => s.exception
  | .interrupt => s.interrupt

def insert (s : FlushSet) : FlushReason → FlushSet
  | .branchMispredict => { s with branchMispredict := true }
  | .exception => { s with exception := true }
  | .interrupt => { s with interrupt := true }

def toList (s : FlushSet) : List FlushReason :=
  FlushReason.all.filter s.contains

def isEmpty (s : FlushSet) : Bool :=
  s == {}

def ofList (reasons : List FlushReason) : FlushSet :=
  reasons.foldl insert {}

@[simp]
theorem contains_insert (s : FlushSet) (r t : FlushReason) :
    (s.insert r).contains t = (r == t || s.contains t) := by
  cases r <;> cases t <;> rfl

theorem ext_contains {s t : FlushSet} (same : ∀ r, s.contains r = t.contains r) : s = t :=
  FlushSet.ext (same .branchMispredict) (same .exception) (same .interrupt)

end FlushSet

end FiveStage
