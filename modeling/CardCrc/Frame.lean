import CardCrc.Checksum
import CardCrc.Command

/-!
# Command frames

A command travels as six bytes: the start bits `01` and the six bits of the
command number, four bytes of argument with the most significant first, and the
framed checksum of those five. A received frame is checked for its length, then
its start bits, then its checksum, and the first check to fail is the fault.
-/

namespace CardCrc

/-- The largest command number. -/
def Frame.largestIndex : UInt8 := 0x3F

/-- A command number of six bits together with its argument. -/
structure Frame where
  /-- The command number. -/
  index : UInt8
  /-- The argument of the command. -/
  argument : UInt32
  /-- A command number has six bits. -/
  index_le : index ≤ Frame.largestIndex
deriving DecidableEq

namespace Frame

/-- The number of bytes in a frame. -/
def length : Nat := 6

/-- The first two bits of a frame, in their place. -/
def startBits : UInt8 := 0x40

/-- The places of the start bits. -/
def startMask : UInt8 := 0xC0

/-- The frame of a command number, which must have six bits. -/
def ofIndex (index : UInt8) (argument : UInt32) : Except Fault Frame :=
  if index_le : index ≤ largestIndex then .ok { index, argument, index_le }
  else .error (.outOfRange 0 index.toNat largestIndex.toNat)

/-- The frame of a known command. -/
def ofCommand (command : Command) (argument : UInt32) : Frame where
  index := command.index
  argument := argument
  index_le := by cases command <;> decide

/-- The known command of a frame's number. -/
def command? (frame : Frame) : Option Command := Command.ofIndex? frame.index

/-- The four bytes of an argument, most significant first. -/
def argumentBytes (argument : UInt32) : List UInt8 :=
  [UInt8.ofNat (argument.toNat / 0x1000000), UInt8.ofNat (argument.toNat / 0x10000),
    UInt8.ofNat (argument.toNat / 0x100), UInt8.ofNat argument.toNat]

/-- The argument of four bytes, most significant first. -/
def argumentOf (first second third fourth : UInt8) : UInt32 :=
  UInt32.ofNat (((first.toNat * 256 + second.toNat) * 256 + third.toNat) * 256 + fourth.toNat)

/-- The five bytes that the checksum covers. -/
def header (frame : Frame) : List UInt8 :=
  (startBits ||| frame.index) :: argumentBytes frame.argument

/-- The checksum byte. -/
def checksum (frame : Frame) : UInt8 := crc7 frame.header

/-- All six bytes. -/
def toBytes (frame : Frame) : List UInt8 := frame.header ++ [frame.checksum]

/-- Six bits of a byte are at most the largest command number. -/
theorem and_largestIndex_le (byte : UInt8) : byte &&& largestIndex ≤ largestIndex :=
  UInt8.le_iff_toNat_le.mpr (by rw [UInt8.toNat_and]; exact Nat.and_le_right)

/-- Check and decode a received frame. -/
def ofBytes : List UInt8 → Except Fault Frame
  | [first, a, b, c, d, received] =>
    if first &&& startMask = startBits then
      let computed := crc7 [first, a, b, c, d]
      if received = computed then
        .ok {
          index := first &&& largestIndex
          argument := argumentOf a b c d
          index_le := and_largestIndex_le first }
      else .error (.checksumMismatch received computed)
    else .error (.startBits first)
  | bytes => .error (.frameLength length bytes.length)

/-- A frame as text: its command, its argument and its checksum, the last two in
hex with all their digits. -/
def display (frame : Frame) : String :=
  (match frame.command? with
    | some command => command.display
    | none => "CMD" ++ Numeral.decimal frame.index.toNat) ++
  " arg=0x" ++ String.ofList (Numeral.fixed 16 8 frame.argument.toNat) ++
  " crc=0x" ++ Numeral.hexByte frame.checksum

end Frame

end CardCrc
