import SquareOne.CommandLine.Report

/-! The command line program: it prints the state that a scramble, an algorithm or a wire form
stands for.
-/

namespace SquareOne

/-- The options of the program. -/
def usageText : String :=
  "usage: [-h] (--scramble SCRAMBLE | --alg ALG | --hex HEX) [--separator \x7b|,/\x7d] " ++
    "[--expanded] [--verbose]"

/-- Prints each text on a line of its own. -/
def printLines (out : IO.FS.Stream) (lines : List Text) : IO Unit :=
  lines.forM fun line => out.putStrLn (String.ofList line)

end SquareOne

open SquareOne in
def main (arguments : List String) : IO UInt32 := do
  let out ← IO.getStdout
  let err ← IO.getStderr
  match CommandLine.run (arguments.map String.toList) with
  | .ok (.stopped stop) =>
      (if stop = .help then out else err).putStrLn usageText
      return stop.exitCode.toUInt32
  | .ok (.reported report) =>
      printLines out report.output
      printLines err report.errors
      return report.exitCode.toUInt32
  | .error fault =>
      printLines err [fault.message]
      return 1
