import Abacus.CommandLine.Command

/-!
# The command line

Writes what the command comes to and leaves with its exit code.
-/

open Abacus.CommandLine

/-- A summary of the arguments. -/
def usageText : String :=
  "usage: fuzzycal [-h] [--mode auto|expr|base] [--json] [-v] text [text ...]"

def main (args : List String) : IO UInt32 := do
  let out ← IO.getStdout
  let err ← IO.getStderr
  match command (args.map String.toList) with
  | .output o =>
      out.putStr (String.ofList o.out)
      err.putStr (String.ofList o.err)
      return o.exit.toUInt32
  | .usage exit =>
      (if exit = 0 then out else err).putStrLn usageText
      return exit.toUInt32
  | .noMode =>
      err.putStrLn "the mode has no value"
      return 1
  | .failed f =>
      err.putStrLn (match f with
        | .tag t => String.ofList t.message
        | _ => "cannot run")
      return 1
  | .contractBroken =>
      err.putStrLn "payload does not meet its contract"
      return 1
