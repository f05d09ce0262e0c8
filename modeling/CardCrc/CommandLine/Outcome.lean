import CardCrc.CommandLine.Guidance

/-!
# Carrying out a command line

The outcome of a command line is an exit code and the two texts it writes. A
report goes to the output with code zero. A fault leaves the output empty and is
told in one line of errors with code one. A misused command line is answered by
the usage with code two.
-/

namespace CardCrc.CommandLine

/-- What a command line leaves behind. -/
structure Outcome where
  exitCode : UInt32
  /-- The text written to the output. -/
  output : String
  /-- The text written to the errors. -/
  errors : String
deriving DecidableEq

/-- The text that an invocation writes, or the fault of its input. The script of a
shell is always written, and its wording is that of `Shell.script`. -/
def Invocation.report : Invocation → Except Fault String
  | checksum arguments options => Report.checksum arguments options
  | frame command argument json => Report.build command argument json
  | verify arguments json => Report.verify arguments json
  | completions shell => .ok shell.script

namespace Outcome

/-- The outcome of a report. -/
def ofReport : Except Fault String → Outcome
  | .ok text => { exitCode := 0, output := text, errors := "" }
  | .error fault => { exitCode := 1, output := "", errors := "Error: " ++ fault.message ++ "\n" }

/-- The outcome of a command line that is not carried out. -/
def ofStop : Stop → Outcome
  | .help => { exitCode := 0, output := usageText, errors := "" }
  | .version => { exitCode := 0, output := versionText, errors := "" }
  | .misuse => { exitCode := 2, output := "", errors := usageText }

/-- The outcome of a command line. -/
def ofWords (words : List String) : Outcome :=
  match Invocation.ofWords words with
  | .ok invocation => ofReport invocation.report
  | .error stop => ofStop stop

end Outcome

end CardCrc.CommandLine
