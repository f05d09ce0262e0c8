import CardCrc.CommandLine.Settings
import CardCrc.Report.Frame

/-!
# What the command line asks for

The first word may name an activity; the words behind it are then of that
activity's form. Every other command line asks for the checksum of its values.
No name of an activity is hex text, so a message is never taken for one.
-/

namespace CardCrc.CommandLine

/-- A shell that can complete command lines. -/
inductive Shell
  | bash
  | elvish
  | fish
  | powershell
  | zsh
deriving DecidableEq

/-- The shell of a name. Only lower case names count. -/
def Shell.ofName? : String → Option Shell
  | "bash" => some .bash
  | "elvish" => some .elvish
  | "fish" => some .fish
  | "powershell" => some .powershell
  | "zsh" => some .zsh
  | _ => none

/-- What a command line asks for. -/
inductive Invocation
  /-- The checksum of a message. -/
  | checksum (arguments : List String) (options : Report.Options)
  /-- The frame of a command and its argument. -/
  | frame (command argument : String) (json : Bool)
  /-- A check of a received frame. -/
  | verify (arguments : List String) (json : Bool)
  /-- The completion script of a shell. -/
  | completions (shell : Shell)
deriving DecidableEq

namespace Invocation

/-- The form of a command line that names no activity. -/
def checksumForm : Form where
  switches := [.flag .trace, .format, .flag .json, .flag .help, .flag .version]
  negativeNumbers := true
  accepts _ _ := true

/-- The form of building a frame: a command and at most one argument. -/
def frameForm : Form where
  switches := [.flag .json, .flag .help]
  negativeNumbers := false
  accepts count _ := count < 2

/-- The form of checking a frame. -/
def verifyForm : Form where
  switches := [.flag .json, .flag .help]
  negativeNumbers := false
  accepts _ _ := true

/-- The form of writing a completion script: one shell. -/
def completionsForm : Form where
  switches := [.flag .help]
  negativeNumbers := false
  accepts count text := count == 0 && (Shell.ofName? text).isSome

/-- Whether a text names an activity. -/
def isActivity (text : String) : Bool :=
  text ∈ ["frame", "verify", "v", "completions", "help"]

/-- The checksum of the values. A trace and JSON exclude each other. -/
def ofChecksum (settings : Settings) : Except Stop Invocation :=
  if settings.trace && settings.json then .error .misuse
  else
    .ok (.checksum settings.values {
      trace := settings.trace
      json := settings.json
      format := settings.format.getD .decimal })

/-- The frame of one or two values. The argument is zero if it is left out. -/
def ofFrame (settings : Settings) : Except Stop Invocation :=
  match settings.values with
  | [command] => .ok (.frame command "0" settings.json)
  | [command, argument] => .ok (.frame command argument settings.json)
  | _ => .error .misuse

/-- The check of one or more values. -/
def ofVerify (settings : Settings) : Except Stop Invocation :=
  if settings.values.isEmpty then .error .misuse
  else .ok (.verify settings.values settings.json)

/-- The completion script of one value. -/
def ofCompletions (settings : Settings) : Except Stop Invocation :=
  match settings.values.map Shell.ofName? with
  | [some shell] => .ok (.completions shell)
  | _ => .error .misuse

/-- Help is given on everything or on one activity. -/
def ofHelp : List String → Stop
  | [] => .help
  | [text] => if isActivity text then .help else .misuse
  | _ => .misuse

/-- What a command line asks for. -/
def ofWords : List String → Except Stop Invocation
  | "frame" :: words => do ofFrame (← Settings.ofWords frameForm words)
  | "verify" :: words => do ofVerify (← Settings.ofWords verifyForm words)
  | "v" :: words => do ofVerify (← Settings.ofWords verifyForm words)
  | "completions" :: words => do ofCompletions (← Settings.ofWords completionsForm words)
  | "help" :: words => .error (ofHelp words)
  | words => do ofChecksum (← Settings.ofWords checksumForm words)

end Invocation

end CardCrc.CommandLine
