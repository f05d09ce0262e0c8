import CardCrc.CommandLine.Invocation

/-!
# Guidance for the user

The texts that explain the command line: its usage, its version, and for each
shell a script that completes the names of activities and switches.

The usage and the scripts are worded here and kept short. They are not the texts
that a parser of command lines generates from its forms, which are longer and laid
out in another way. When such a text is given, and with which exit code, does not
depend on its wording.
-/

namespace CardCrc.CommandLine

/-- The version line. -/
def versionText : String := "crc7 0.1.0\n"

/-- How the command line is used, in a wording and a layout of its own. A generated
help text would differ. -/
def usageText : String :=
  "\n".intercalate
    ["CRC-7 checksum for MMC/SD command framing",
      "",
      "Usage: crc7 [-t | -j] [-f dec|hex|bin] [BYTES]...",
      "       crc7 frame [-j] COMMAND [ARGUMENT]",
      "       crc7 verify [-j] BYTES...",
      "       crc7 completions bash|elvish|fish|powershell|zsh",
      "       crc7 help [frame|verify|completions|help]",
      "",
      "Bytes are hex integers such as ff, 05 or 0x40. The last line printed is the",
      "framed checksum. Put values that begin with a hyphen behind --.",
      ""]

/-- The words that a shell completes. -/
def completedWords : List String :=
  ["frame", "verify", "completions", "help"] ++
    Invocation.checksumForm.switches.map fun switch => "--" ++ switch.name

/-- The script that teaches a shell to complete command lines. It is a minimal one of
its own that offers every word at every place, and not the script that a generator
would write for the shell. -/
def Shell.script (shell : Shell) : String :=
  let words := " ".intercalate completedWords
  match shell with
  | .bash => "complete -W \"" ++ words ++ "\" crc7\n"
  | .elvish =>
    "set edit:completion:arg-completer[crc7] = \x7b|@words| put " ++ words ++ " \x7d\n"
  | .fish => "complete -c crc7 -f -a \"" ++ words ++ "\"\n"
  | .powershell =>
    "Register-ArgumentCompleter -Native -CommandName crc7 -ScriptBlock \x7b param($word) \"" ++
      words ++ "\" -split \" \" | Where-Object \x7b $_ -like \"$word*\" \x7d \x7d\n"
  | .zsh => "#compdef crc7\ncompadd -- " ++ words ++ "\n"

end CardCrc.CommandLine
