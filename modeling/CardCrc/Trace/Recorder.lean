import CardCrc.Trace.Observer

/-!
# Recorded steps

A recorder keeps the steps and the registers at the ends of bytes in the order
in which they came, over any number of watched messages. The steps of a byte are
found by position, eight to a byte, so a later message's first byte follows the
earlier message's last one although its own index starts again at zero.

A listing has one line for each step and a separator after each byte. It covers
as many bytes as have ended; steps beyond those are left out.
-/

namespace CardCrc

/-- Everything an observer has been shown. -/
structure Recorder where
  /-- The steps in the order in which they came. -/
  steps : Array Step := #[]
  /-- The registers at the ends of bytes, in the same order. -/
  byteEnds : Array Register := #[]
deriving DecidableEq

namespace Recorder

/-- Nothing recorded. -/
def empty : Recorder := {}

/-- Add a step. -/
def recordBit (recorder : Recorder) (step : Step) : Recorder :=
  { recorder with steps := recorder.steps.push step }

/-- Add the register at the end of a byte. -/
def recordByteEnd (recorder : Recorder) (register : Register) : Recorder :=
  { recorder with byteEnds := recorder.byteEnds.push register }

/-- The observer that records all it is shown. -/
def observer : Observer Recorder where
  onBit := recordBit
  onByteEnd recorder _ register := recorder.recordByteEnd register

/-- Where the steps of a byte begin, or the end of the steps if it has none. -/
def firstStep (recorder : Recorder) (byte : Nat) : Nat := min (byte * 8) recorder.steps.size

/-- Where the steps of a byte end, at most eight behind their beginning. -/
def lastStep (recorder : Recorder) (byte : Nat) : Nat :=
  min (recorder.firstStep byte + 8) recorder.steps.size

/-- The steps of a byte, counting the recorded bytes from zero. -/
def stepsOf (recorder : Recorder) (byte : Nat) : List Step :=
  (recorder.steps.extract (recorder.firstStep byte) (recorder.lastStep byte)).toList

/-- The line after the steps of a byte. -/
def separator : String := "-----"

/-- The lines of one byte. -/
def linesOf (recorder : Recorder) (byte : Nat) : List String :=
  (recorder.stepsOf byte).map Step.line ++ [separator]

/-- The lines of all bytes that have ended. -/
def lines (recorder : Recorder) : List String :=
  (List.range recorder.byteEnds.size).flatMap recorder.linesOf

end Recorder

end CardCrc
