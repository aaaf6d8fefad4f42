import FiveStage.FloatingPoint
import FiveStage.Statistics.Basic

/-!
# The statistics report

The counters of a run as a text in four sections, of which a reader may ask for some.
-/

namespace FiveStage

/-- A section of the statistics report. -/
inductive Section where
  | summary
  | hazards
  | instructionMix
  | coprocessors
  deriving DecidableEq, Repr

namespace Section

def all : List Section :=
  [summary, hazards, instructionMix, coprocessors]

def name : Section → String
  | summary => "summary"
  | hazards => "hazards"
  | instructionMix => "instruction_mix"
  | coprocessors => "coprocessors"

def ofName? (s : String) : Option Section :=
  all.find? (·.name == s)

end Section

namespace Statistics

open FloatingPoint

/-- A line whose name fills 24 columns. -/
def entry (name value : String) : String :=
  Text.padRight 24 name ++ " " ++ value

/-- A share in percent. The counters, the quotient and the product are each rounded to 64-bit
floating point before two decimal places are written. -/
def percent (num den : Nat) : String :=
  let share := binary64.div (binary64.ofNat num) (binary64.ofNat (max den 1))
  (binary64.mul share (binary64.ofNat 100)).fixed 2

/-- An indented counter with its share of a total. -/
def shareEntry (total : Nat) (name : String) (n : Nat) : String :=
  entry ("  " ++ name) (toString n ++ " (" ++ percent n total ++ "%)")

/-- An indented counter. -/
def countEntry (name : String) (n : Nat) : String :=
  entry ("  " ++ name) (toString n)

/-- The rule between two sections. -/
def thinRule : String :=
  "----------------------------------------------------------"

/-- The rule around the report. -/
def thickRule : String :=
  "=========================================================="

/-- The lines of one section. `hostTime` is how long the run took on the host, in words. -/
def sectionLines (s : Statistics) (hostTime : String) : Section → List String
  | .summary =>
      [entry "host_seconds" hostTime,
        entry "sim_cycles" (toString s.cycles),
        entry "sim_insts" (toString s.retired),
        entry "sim_ipc" (s.ipc.fixed 4),
        entry "sim_cpi" (s.cpi.fixed 4),
        entry "traps_taken" (toString s.traps),
        thinRule]
  | .hazards =>
      ["STALLS AND FLUSHES",
        shareEntry s.cycles "stalls.raw" s.stalls.raw,
        shareEntry s.cycles "stalls.load_use" s.stalls.loadUse,
        shareEntry s.cycles "stalls.coprocessor" s.stalls.coprocessor,
        shareEntry s.cycles "stalls.memory" s.stalls.memory,
        shareEntry s.cycles "stalls.external" s.stalls.external,
        countEntry "flush.branch" s.flushes.branch,
        countEntry "flush.exception" s.flushes.exception,
        countEntry "flush.interrupt" s.flushes.interrupt,
        countEntry "forward.ex" s.forwards.ex,
        countEntry "forward.mem_alu" s.forwards.memAlu,
        countEntry "forward.mem_load" s.forwards.memLoad,
        thinRule]
  | .instructionMix =>
      ["INSTRUCTION MIX",
        shareEntry s.retired "op.alu" s.mix.alu,
        shareEntry s.retired "op.load" s.mix.load,
        shareEntry s.retired "op.store" s.mix.store,
        shareEntry s.retired "op.branch" s.mix.branch,
        shareEntry s.retired "op.system" s.mix.system,
        shareEntry s.retired "op.coprocessor" s.mix.coprocessor,
        thinRule]
  | .coprocessors =>
      "COPROCESSOR ISSUE CYCLES" ::
        Slot.all.map fun slot =>
          countEntry ("cp" ++ toString slot.index ++ ".issue") (s.issues.get slot)

/-- The report with the sections that were asked for, or all of them if none was. -/
def text (s : Statistics) (hostTime : String) (wanted : List String) : String :=
  let shown := Section.all.filter fun part => wanted.isEmpty || wanted.contains part.name
  let lines :=
    ["", thickRule, "RV32 PIPELINE CONTROL-PATH STATISTICS", thickRule] ++
      shown.flatMap (s.sectionLines hostTime) ++ [thickRule]
  String.join (lines.map (· ++ "\n"))

end Statistics

end FiveStage
