import CardCrc.CommandLine.Outcome

/-!
# The program

The program carries out its command line, writes the two texts of the outcome
and ends with its exit code.
-/

/-- Carry out the command line. -/
def main (arguments : List String) : IO UInt32 := do
  let outcome := CardCrc.CommandLine.Outcome.ofWords arguments
  IO.print outcome.output
  IO.eprint outcome.errors
  return outcome.exitCode
