import FiveStage.FloatingPoint
import FiveStage.Pipeline.Report

/-!
# Statistics

Counters over the cycles of a run, and the two ratios that are derived from them.
-/

namespace FiveStage

/-- The category under which a retired instruction is counted. -/
inductive Category where
  | alu
  | load
  | store
  | branch
  | system
  | coprocessor
  deriving DecidableEq, Repr

/-- The category of a retired instruction. -/
def MemWb.category (e : MemWb) : Category :=
  if e.coprocessor.isSome && !e.ctrl.system then .coprocessor
  else if e.ctrl.system then .system
  else if e.ctrl.memRead then .load
  else if e.ctrl.memWrite then .store
  else if e.ctrl.isTransfer then .branch
  else .alu

/-- Retired instructions by category. -/
@[ext]
structure Mix where
  alu : Nat := 0
  load : Nat := 0
  store : Nat := 0
  branch : Nat := 0
  system : Nat := 0
  coprocessor : Nat := 0
  deriving DecidableEq, Repr

def Mix.count (m : Mix) : Category → Mix
  | .alu => { m with alu := m.alu + 1 }
  | .load => { m with load := m.load + 1 }
  | .store => { m with store := m.store + 1 }
  | .branch => { m with branch := m.branch + 1 }
  | .system => { m with system := m.system + 1 }
  | .coprocessor => { m with coprocessor := m.coprocessor + 1 }

/-- Cycles by stall reason. -/
@[ext]
structure StallCounts where
  raw : Nat := 0
  loadUse : Nat := 0
  coprocessor : Nat := 0
  memory : Nat := 0
  external : Nat := 0
  deriving DecidableEq, Repr

def StallCounts.count (c : StallCounts) : StallReason → StallCounts
  | .rawHazard => { c with raw := c.raw + 1 }
  | .loadUseHazard => { c with loadUse := c.loadUse + 1 }
  | .coprocessorNotReady => { c with coprocessor := c.coprocessor + 1 }
  | .memoryNotReady => { c with memory := c.memory + 1 }
  | .externalStall => { c with external := c.external + 1 }

/-- Flushes by reason. -/
@[ext]
structure FlushCounts where
  branch : Nat := 0
  exception : Nat := 0
  interrupt : Nat := 0
  deriving DecidableEq, Repr

def FlushCounts.count (c : FlushCounts) : FlushReason → FlushCounts
  | .branchMispredict => { c with branch := c.branch + 1 }
  | .exception => { c with exception := c.exception + 1 }
  | .interrupt => { c with interrupt := c.interrupt + 1 }

/-- Forwarded operands by source. -/
@[ext]
structure ForwardCounts where
  ex : Nat := 0
  memAlu : Nat := 0
  memLoad : Nat := 0
  deriving DecidableEq, Repr

def ForwardCounts.count (c : ForwardCounts) : ForwardSource → ForwardCounts
  | .regFile => c
  | .exResult => { c with ex := c.ex + 1 }
  | .memAlu => { c with memAlu := c.memAlu + 1 }
  | .memLoad => { c with memLoad := c.memLoad + 1 }

/-- The counters of a run. -/
@[ext]
structure Statistics where
  cycles : Nat := 0
  retired : Nat := 0
  mix : Mix := {}
  stalls : StallCounts := {}
  flushes : FlushCounts := {}
  forwards : ForwardCounts := {}
  /-- The cycles in which each coprocessor was offered an operation. -/
  issues : PerSlot Nat := .const 0
  traps : Nat := 0
  deriving DecidableEq, Repr

namespace Statistics

/-- The counters after one more cycle. -/
def record (s : Statistics) (r : Report) : Statistics where
  cycles := s.cycles + 1
  retired := if r.retired.isSome then s.retired + 1 else s.retired
  mix := r.retired.elim s.mix fun e => s.mix.count e.category
  stalls := r.interlock.stalls.toList.foldl .count s.stalls
  flushes := r.interlock.flushes.toList.foldl .count s.flushes
  forwards := (s.forwards.count r.forwards.rs1).count r.forwards.rs2
  issues :=
    match r.dispatch.select with
    | some slot => if r.dispatch.offloaded then s.issues.modify slot (· + 1) else s.issues
    | none => s.issues
  traps := if r.trap.isSome then s.traps + 1 else s.traps

open FloatingPoint

/-- A ratio of two counters as a 64-bit floating-point datum, zero over a zero denominator. The
counters are rounded before they are divided. -/
def ratio (num den : Nat) : Datum :=
  if den = 0 then .finite false 0 binary64.minExponent
  else binary64.div (binary64.ofNat num) (binary64.ofNat den)

/-- Cycles per retired instruction. -/
def cpi (s : Statistics) : Datum :=
  ratio s.cycles s.retired

/-- Retired instructions per cycle. -/
def ipc (s : Statistics) : Datum :=
  ratio s.retired s.cycles

end Statistics

end FiveStage
