import CardCrc.Checksum
import CardCrc.Command
import CardCrc.Command.Lookup
import CardCrc.CommandLine.Guidance
import CardCrc.CommandLine.Invocation
import CardCrc.CommandLine.Outcome
import CardCrc.CommandLine.Settings
import CardCrc.CommandLine.Word
import CardCrc.Fault
import CardCrc.Frame
import CardCrc.Frame.Request
import CardCrc.HexText.Byte
import CardCrc.HexText.Dump
import CardCrc.HexText.Integer
import CardCrc.Main
import CardCrc.Proofs.Command.Words
import CardCrc.Proofs.CommandLine.Arrangement
import CardCrc.Proofs.CommandLine.Checksums
import CardCrc.Proofs.CommandLine.Failures
import CardCrc.Proofs.CommandLine.Recognition
import CardCrc.Proofs.CommandLine.Spellings
import CardCrc.Proofs.Fault.Messages
import CardCrc.Proofs.Fault.Wording
import CardCrc.Proofs.Frame.Arguments
import CardCrc.Proofs.Frame.Corruption
import CardCrc.Proofs.Frame.Decoding
import CardCrc.Proofs.Frame.Residue
import CardCrc.Proofs.Frame.Resolution
import CardCrc.Proofs.HexText.Cuts
import CardCrc.Proofs.HexText.Dumps
import CardCrc.Proofs.HexText.Grammar
import CardCrc.Proofs.HexText.Integers
import CardCrc.Proofs.HexText.Joining
import CardCrc.Proofs.HexText.Magnitudes
import CardCrc.Proofs.HexText.Reading
import CardCrc.Proofs.HexText.Refusals
import CardCrc.Proofs.HexText.Shapes
import CardCrc.Proofs.HexText.Tokens
import CardCrc.Proofs.HexText.Writing
import CardCrc.Proofs.Message.Collisions
import CardCrc.Proofs.Message.Damage
import CardCrc.Proofs.Message.Distance
import CardCrc.Proofs.Message.Padding
import CardCrc.Proofs.Message.Substitution
import CardCrc.Proofs.Message.Superposition
import CardCrc.Proofs.Register.Division
import CardCrc.Proofs.Register.Feeding
import CardCrc.Proofs.Register.Linearity
import CardCrc.Proofs.Register.Remainder
import CardCrc.Proofs.Report.Descriptions
import CardCrc.Proofs.Report.Exchange
import CardCrc.Proofs.Report.Lines
import CardCrc.Proofs.Report.Modes
import CardCrc.Proofs.Session.Effects
import CardCrc.Proofs.Session.Forgetting
import CardCrc.Proofs.Session.Histories
import CardCrc.Proofs.Session.Recordings
import CardCrc.Proofs.Text.Controls
import CardCrc.Proofs.Text.Numerals
import CardCrc.Proofs.Trace.Coverage
import CardCrc.Proofs.Trace.Listing
import CardCrc.Proofs.Trace.Passage
import CardCrc.Proofs.Trace.Recording
import CardCrc.Proofs.Trace.Showing
import CardCrc.Proofs.Trace.Telling
import CardCrc.Proofs.Trace.Unbounded
import CardCrc.Register
import CardCrc.Report.Checksum
import CardCrc.Report.Frame
import CardCrc.Report.Object
import CardCrc.Session
import CardCrc.Text.Blank
import CardCrc.Text.CodeRange
import CardCrc.Text.Numeral
import CardCrc.Text.Printable
import CardCrc.Text.Quoted
import CardCrc.Trace.Observer
import CardCrc.Trace.Recorder
import CardCrc.Trace.Step
