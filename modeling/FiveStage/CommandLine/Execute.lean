import FiveStage.CommandLine.Arguments
import FiveStage.Configuration.Reader
import FiveStage.Files.Elf
import FiveStage.Simulator

/-!
# The command

What the command prints and with which code it ends, in any monad that can read files and tell how
long a run took.
-/

namespace FiveStage.CommandLine

/-- What the command leaves behind. -/
structure Output where
  exitCode : UInt8
  stdout : String
  stderr : String
  deriving DecidableEq, Repr

def helpText : String :=
  "Run a program on the five-stage pipeline and report hazards, flushes and coprocessor use.\n\n" ++
  "Usage: fivestage run --file <FILE> [OPTIONS]\n\n" ++
  "Options:\n" ++
  "  -f, --file <FILE>        Program to execute (raw image, or ELF if it begins like one)\n" ++
  "  -c, --config <FILE>      JSON configuration; omitted fields keep their defaults\n" ++
  "      --max-cycles <N>     Override general.max_cycles\n" ++
  "      --elf                Take the program for ELF whatever it begins with\n" ++
  "      --stats <SECTIONS>   Sections: summary, hazards, instruction_mix, coprocessors\n" ++
  "  -h, --help               Print this text\n" ++
  "  -V, --version            Print the version\n"

def versionText : String :=
  "fivestage 0.3.0\n"

def banner (file : String) (config : Configuration) : String :=
  "[*] Program: " ++ file ++ "\n    Reset PC: " ++ config.pipeline.resetPc.hex ++
    "  Forwarding: " ++ Text.bool config.pipeline.forwarding ++ "  CP latency: " ++
    Text.list (config.coprocessors.latency.toList.map toString) ++ "\n"

def exitLine : Exit → String
  | .trap trap => "\n[*] Halted: " ++ trap.text ++ "\n"
  | .cycleLimit => "\n[*] Cycle limit reached\n"

def summary (run : Run) (hostTime : String) (sections : List Section) : String :=
  let core := run.simulator.pipeline.core
  exitLine run.exit ++ "\n" ++ core.regs.text ++
    core.stats.text hostTime (sections.map (·.name))

/-- The output of a command that failed after it had printed `stdout`. -/
def failure (stdout message : String) : Output :=
  { exitCode := 1, stdout, stderr := "error: " ++ message ++ "\n" }

/-- The configuration with the cycle limit that the options give, if they give one. -/
def RunOptions.override (options : RunOptions) (c : Configuration) : Configuration :=
  match options.maxCycles with
  | none => c
  | some maxCycles => { c with general := { c.general with maxCycles } }

variable {m : Type → Type} [Monad m]

def loadConfiguration (contentsOf : String → m (Except ReadFailure ByteArray))
    (options : RunOptions) : m (Except ConfigurationError Configuration) :=
  match options.config with
  | none => return .ok (options.override {})
  | some path => do return (Configuration.ofFile path (← contentsOf path)).map options.override

def loadSimulator (contents : Except ReadFailure ByteArray) (config : Configuration)
    (elf : Bool) : Except SimulationError Simulator := do
  let loaded ← (Program.ofFile contents elf config.pipeline.resetPc).mapError .load
  Simulator.build config loaded.program

/-- Runs a program. `timed` evaluates a run and tells how long that took on the host. -/
def executeRun (contentsOf : String → m (Except ReadFailure ByteArray))
    (timed : (Unit → Run) → m (Run × String)) (options : RunOptions) : m Output := do
  match ← loadConfiguration contentsOf options with
  | .error e => return failure "" e.message
  | .ok config =>
      let stdout := banner options.file config
      match loadSimulator (← contentsOf options.file) config options.elf with
      | .error e => return failure stdout e.message
      | .ok simulator =>
          let (run, hostTime) ← timed fun _ => simulator.run {}
          let stdout := stdout ++ summary run hostTime options.stats
          return { exitCode := 0, stdout, stderr := "" }

/-- Does what the arguments ask for. -/
def execute (contentsOf : String → m (Except ReadFailure ByteArray))
    (timed : (Unit → Run) → m (Run × String)) (arguments : List String) : m Output :=
  match parse arguments with
  | .error e => return { exitCode := 2, stdout := "", stderr := "error: " ++ e.message ++ "\n" }
  | .ok .help => return { exitCode := 0, stdout := helpText, stderr := "" }
  | .ok .version => return { exitCode := 0, stdout := versionText, stderr := "" }
  | .ok (.run options) => executeRun contentsOf timed options

end FiveStage.CommandLine
