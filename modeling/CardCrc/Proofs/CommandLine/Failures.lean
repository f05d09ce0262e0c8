import CardCrc.CommandLine.Outcome
import CardCrc.Proofs.Fault.Wording
import CardCrc.Proofs.Report.Lines

/-!
# Failures on the command line

A command line that is understood is either carried out or refused, and which of
the two is decided before anything is written. What is written to the errors of
a refused one is a single line: control characters of the arguments, line breaks
among them, reach it as escapes only.
-/

namespace CardCrc.CommandLine

open Fault (FaultsWorded)

/-- Whatever is asked for, a fault is worded. -/
theorem Invocation.faultsWorded_report (invocation : Invocation) :
    FaultsWorded invocation.report := by
  cases invocation with
  | checksum arguments options => exact Report.faultsWorded_checksum arguments options
  | frame command argument json => exact Report.faultsWorded_build command argument json
  | verify arguments json => exact Report.faultsWorded_verify arguments json
  | completions shell => exact FaultsWorded.ok shell.script

namespace Outcome

/-- A command line that is understood has the outcome of its report. -/
theorem ofWords_of_ok (words : List String) (invocation : Invocation)
    (understood : Invocation.ofWords words = .ok invocation) :
    ofWords words = ofReport invocation.report := by
  rw [ofWords, understood]

/-- A clean message behind a clean label is one line of errors. -/
theorem lined_errors (message : String) (clean : Text.Clean message.toList) :
    Report.Lined ("Error: " ++ message ++ "\n") ["Error: " ++ message] :=
  (Report.unbroken_of_clean _
    ((Text.clean_toList_append _ _).mpr ⟨by decide +kernel, clean⟩)).lined

/-- Every command line that is understood is carried out, with exit code zero
and nothing written to the errors, or refused with exit code one. When it is
refused nothing is written to the output, and the errors are one line: a label
and the message of the fault, in which there is no control character.

A completion script is among what is carried out. It is never refused, and which
text it is does not matter here. -/
theorem report_or_one_clean_line (words : List String) (invocation : Invocation)
    (understood : Invocation.ofWords words = .ok invocation) :
    (∃ text, invocation.report = .ok text ∧
      ofWords words = { exitCode := 0, output := text, errors := "" }) ∨
    ∃ fault message, invocation.report = .error fault ∧ fault.message = message ∧
      ofWords words = { exitCode := 1, output := "", errors := "Error: " ++ message ++ "\n" } ∧
      (∀ character ∈ message.toList,
        ¬ (character.toNat ≤ 0x1F ∨ 0x7F ≤ character.toNat ∧ character.toNat ≤ 0x9F)) ∧
      Report.Lined ("Error: " ++ message ++ "\n") ["Error: " ++ message] := by
  have outcome := ofWords_of_ok words invocation understood
  cases reported : invocation.report with
  | ok text =>
    rw [reported] at outcome
    exact Or.inl ⟨text, rfl, outcome⟩
  | error fault =>
    rw [reported] at outcome
    have clean := fault.clean_message (invocation.faultsWorded_report fault reported)
    exact Or.inr ⟨fault, fault.message, rfl, rfl, outcome, clean, lined_errors _ clean⟩

/-- An argument that would clear the screen and begin a new line is told with
escapes, in the input and in the reason. -/
theorem report_or_one_clean_line_escape :
    Invocation.ofWords ["40", "\x1b[2J\n"] = .ok (.checksum ["40", "\x1b[2J\n"] {}) ∧
      ofWords ["40", "\x1b[2J\n"] =
        { exitCode := 1
          output := ""
          errors := "Error: Invalid hex byte \"\\u\x7b1b\x7d[2J\\n\": " ++
            "invalid hex digit '\\u\x7b1b\x7d'\n" } ∧
      Text.Clean ("Invalid hex byte \"\\u\x7b1b\x7d[2J\\n\": " ++
        "invalid hex digit '\\u\x7b1b\x7d'").toList := by
  have understood : Invocation.ofWords ["40", "\x1b[2J\n"] =
      .ok (.checksum ["40", "\x1b[2J\n"] {}) := by decide +kernel
  have refused : Report.checksum ["40", "\x1b[2J\n"] {} =
      .error ((Complaint.badHexDigit '\x1b').about "\x1b[2J\n") := by decide +kernel
  have told : ((Complaint.badHexDigit '\x1b').about "\x1b[2J\n").message =
      "Invalid hex byte \"\\u\x7b1b\x7d[2J\\n\": " ++ "invalid hex digit '\\u\x7b1b\x7d'" := by
    decide +kernel
  obtain ⟨text, reported, -⟩ | ⟨fault, message, reported, rfl, outcome, clean, -⟩ :=
    report_or_one_clean_line ["40", "\x1b[2J\n"] _ understood
  · exact nomatch refused.symm.trans reported
  · rw [← Except.error.inj (refused.symm.trans reported), told] at outcome clean
    exact ⟨understood, outcome, clean⟩

end Outcome

end CardCrc.CommandLine
