import ProfileOperator.CommandLine.Program
import ProfileOperator.Json.Printer

/-!
# The command

The command logs one JSON object a line on standard output.  It has no client for a cluster of its own,
so a call with usable arguments ends where it would connect.
-/

open ProfileOperator CommandLine

def logLine (level : Level) (message : String) : String :=
  (Json.object [
    ("level", .string level.word),
    ("fields", .object [("message", .string message)]),
    ("target", .string programName)]).compact

/-- Call the program and carry out what the call came to. -/
def main (args : List String) : IO UInt32 := do
  let result := call { clusterKnown := false, binding := .refused } programName args
  for (level, message) in result.logs do
    IO.println (logLine level message)
  IO.print result.output
  IO.eprint result.errors
  return (result.exitCode.getD 0).toUInt32
