import FiveStage.Pipeline.Reason
import FiveStage.Pipeline.Stage
import FiveStage.Word

/-!
# Interlocks

While the stages work they ask for stalls and flushes. `Interlock` gathers what was asked for in one
cycle: which reasons were given, the oldest stage that stalls, and the oldest stage that is flushed
with the address its flush redirects to. From these follows the fate of the instruction in each
stage at the clock edge. A flush wins over a stall.
-/

namespace FiveStage

/-- What happens at the clock edge to the instruction in a stage. -/
inductive Fate where
  /-- It moves on, out of the pipeline if it is in the last stage. -/
  | advance
  /-- It stays where it is. -/
  | hold
  /-- It disappears. -/
  | discard
  deriving DecidableEq, Repr

def Fate.name : Fate → String
  | advance => "Advance"
  | hold => "Hold"
  | discard => "Discard"

/-- A flush: the oldest stage it empties and the address that is fetched next. -/
structure Redirect where
  stage : Stage
  target : Word
  deriving DecidableEq, Repr

/-- The stalls and flushes asked for in one cycle. -/
@[ext]
structure Interlock where
  stalls : StallSet := {}
  flushes : FlushSet := {}
  /-- The oldest stage that stalls. -/
  stallPoint : Option Stage := none
  /-- The flush at the oldest stage; of several at that stage, the first. -/
  redirect : Option Redirect := none
  deriving DecidableEq, Repr

namespace Interlock

def flushPoint (c : Interlock) : Option Stage :=
  c.redirect.map (·.stage)

def target (c : Interlock) : Option Word :=
  c.redirect.map (·.target)

/-- Holds `stage` and everything younger. -/
def stall (c : Interlock) (reason : StallReason) (stage : Stage) : Interlock :=
  { c with
    stalls := c.stalls.insert reason
    stallPoint :=
      match c.stallPoint with
      | none => some stage
      | some point => if point < stage then some stage else some point }

/-- Empties `stage` and everything younger and sends fetch to `target`, unless an older stage is
flushed already. -/
def flush (c : Interlock) (reason : FlushReason) (stage : Stage) (target : Word) :
    Interlock :=
  { c with
    flushes := c.flushes.insert reason
    redirect :=
      match c.redirect with
      | none => some { stage, target }
      | some r => if r.stage < stage then some { stage, target } else some r }

/-- Whether an older stage that stalls holds `stage`. -/
def heldByOlder (c : Interlock) (stage : Stage) : Bool :=
  c.stallPoint.any fun point => stage < point

def flushed (c : Interlock) (stage : Stage) : Bool :=
  c.redirect.any fun r => stage ≤ r.stage

/-- What happens to the instruction in `stage`. -/
def fate (c : Interlock) (stage : Stage) : Fate :=
  if c.flushed stage then .discard
  else if c.stallPoint.any (stage ≤ ·) then .hold
  else .advance

end Interlock

end FiveStage
