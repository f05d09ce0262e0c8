import CardCrc.Frame.Request
import CardCrc.HexText.Dump
import CardCrc.Report.Object

/-!
# Frame reports

One report builds the frame that a command and an argument ask for, the other
checks a frame that was received. Both describe the frame in the same words and,
in JSON, by the same object, so a built frame checks out as itself.
-/

namespace CardCrc.Report

/-- A frame in JSON. A command number with no known command has no name. -/
def frameObject (frame : Frame) : String :=
  let command := match frame.command? with
    | some command => [("command", .text command.name)]
    | none => []
  object (command ++
    [("index", .number frame.index.toNat), ("argument", .number frame.argument.toNat),
      ("crc", .number frame.checksum.toNat), ("bytes", .text (HexText.write frame.toBytes))])

/-- Whether a frame carries a command that must be announced. -/
def needsAnnouncement (frame : Frame) : Bool := frame.command?.any Command.isAppCommand

/-- A frame in words, with a reminder in front of one that must be announced. -/
def frameText (frame : Frame) : String :=
  (if needsAnnouncement frame then "Note: send CMD55 (APP_CMD) first\n" else "") ++
    "Command: " ++ frame.display ++ "\n" ++
    "Frame: " ++ HexText.write frame.toBytes ++ "\n"

/-- The report on the frame that a command and an argument ask for. -/
def build (command argument : String) (json : Bool) : Except Fault String := do
  let frame ← Frame.ofRequest command argument
  return if json then frameObject frame ++ "\n" else frameText frame

/-- The report on a received frame. Its arguments are read as one dump. -/
def verify (arguments : List String) (json : Bool) : Except Fault String := do
  let bytes ← HexText.readDump (" ".intercalate arguments)
  let frame ← Frame.ofBytes bytes
  return if json then frameObject frame ++ "\n" else "OK: " ++ frame.display ++ "\n"

end CardCrc.Report
