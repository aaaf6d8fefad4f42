import FiveStage.CommandLine.Execute

/-!
# The program

The command with the files, the clock and the standard streams of the host.
-/

namespace FiveStage

/-- The failure behind an error of the host, whose number may come with its sign changed. -/
def ReadFailure.ofHost (e : IO.Error) : ReadFailure :=
  let described : ReadFailure := .other (toString e)
  let ofCode (code : UInt32) : ReadFailure :=
    (ofNumber? code.toInt32.toInt.natAbs).getD described
  match e with
  | .noFileOrDirectory _ code _ => ofCode code
  | .permissionDenied _ code _ => ofCode code
  | .inappropriateType _ code _ => ofCode code
  | .invalidArgument _ code _ => ofCode code
  | _ => described

/-- Reads a file of the host. -/
def readHostFile (path : String) : IO (Except ReadFailure ByteArray) := do
  try
    return .ok (← IO.FS.readBinFile path)
  catch e =>
    return .error (.ofHost e)

/-- Evaluates a run and measures how long that takes. -/
def timeRun (run : Unit → Run) : IO (Run × String) := do
  let start ← IO.monoNanosNow
  let result ← IO.lazyPure run
  let stop ← IO.monoNanosNow
  return (result, FloatingPoint.fixedPoint 4 (stop - start) 1000000000 ++ " s")

end FiveStage

/-- Does what the arguments ask for. -/
def main (arguments : List String) : IO UInt32 := do
  let output ← FiveStage.CommandLine.execute FiveStage.readHostFile FiveStage.timeRun arguments
  IO.print output.stdout
  IO.eprint output.stderr
  return output.exitCode.toUInt32
