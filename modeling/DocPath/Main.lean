import DocPath.CommandLine

/-!
# The program

Reads the arguments and, where a command asks for it, the standard input; prints what the command
line gives and exits with its code.
-/

open DocPath

def main (args : List String) : IO UInt32 := do
  let input ← if CommandLine.readsInput args then (← IO.getStdin).readToEnd else pure ""
  let outcome := CommandLine.execute args input
  IO.print outcome.output
  IO.eprint outcome.errors
  return outcome.exit.toUInt32
