import CardCrc.HexText.Byte
import CardCrc.Report.Object
import CardCrc.Trace.Recorder

/-!
# The checksum report

The report reads a message from hex arguments and ends in its framed checksum,
in the format asked for. A trace puts the listing of every step in front. The
JSON report has a form of its own and takes no notice of trace and format. No
part of a report is written when an argument is refused.
-/

namespace CardCrc.Report

/-- How the checksum byte is written. -/
inductive ByteFormat
  | decimal
  | hex
  | binary
deriving DecidableEq

/-- A byte in a format. Hex and binary bytes have all their digits behind a marker. -/
def ByteFormat.render (byte : UInt8) : ByteFormat → String
  | decimal => Numeral.decimal byte.toNat
  | hex => "0x" ++ Numeral.hexByte byte
  | binary => "0b" ++ String.ofList (Numeral.fixed 2 8 byte.toNat)

/-- What a checksum report shows. -/
structure Options where
  /-- Show every step of the register. -/
  trace : Bool := false
  /-- Write JSON. -/
  json : Bool := false
  /-- How the checksum is written. -/
  format : ByteFormat := .decimal
deriving DecidableEq

/-- The checksum of a message in JSON. -/
def checksumObject (message : List UInt8) : String :=
  let register := Register.empty.append message
  object
    [("input", .text (HexText.write message)), ("length", .number message.length),
      ("crc", .number register.framed.toNat), ("crc7", .number register.value.toNat)]

/-- The lines of a report that is not JSON. The checksum is always the last one. -/
def checksumLines (message : List UInt8) (options : Options) : List String :=
  let (register, recorder) :=
    if options.trace then Recorder.observer.watch Register.empty message Recorder.empty
    else (Register.empty.append message, Recorder.empty)
  recorder.lines ++ [options.format.render register.framed]

/-- The report on a message, without its last line break. -/
def checksumText (message : List UInt8) (options : Options) : String :=
  if options.json then checksumObject message
  else "\n".intercalate (checksumLines message options)

/-- The report on the message that hex arguments spell. -/
def checksum (arguments : List String) (options : Options) : Except Fault String := do
  let message ← HexText.readBytes arguments
  return checksumText message options ++ "\n"

end CardCrc.Report
