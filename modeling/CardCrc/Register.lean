/-!
# The shift register

A message enters an eight-bit register one bit at a time, the most significant
bit of each byte first. Every step moves the register up one place and applies
the feedback tap when the incoming bit differs from the bit that arrived in the
top position. The low seven bits are the checksum; the top bit is the one that
the next step moves out, and no later step reads it again.

Whole bytes also go through a table of 256 registers. Moving the register up
and adding the byte gives the index, because feeding a byte to a register and
feeding their sum to the empty register are the same eight steps.
-/

namespace CardCrc

/-- The eight-bit register while a message is being fed to it. -/
abbrev Register := UInt8

namespace Register

/-- The tap is the generator x⁷ + x³ + 1 with its leading term left implicit. -/
def tap : UInt8 := 0x09

/-- The framed checksum always ends in this bit. -/
def stopBit : UInt8 := 0x01

/-- The seven positions of the register that form the checksum. -/
def checksumMask : UInt8 := 0x7F

/-- The register before any bit has been fed. -/
def empty : Register := 0

/-- The bit of `byte` that enters at `position`, zero being the first to enter
and the most significant. -/
def inputBit (byte : UInt8) (position : Nat) : Bool := byte.toBitVec.getMsbD position

/-- The eight bits of a byte in the order in which they enter. -/
def inputBits (byte : UInt8) : List Bool := (List.range 8).map (inputBit byte)

/-- The tap applies when the incoming bit differs from the bit that the step
moves into the top position. -/
def feedback (register : Register) (bit : Bool) : Bool :=
  bit != (register <<< 1).toBitVec.msb

/-- One step: up one place, then the tap where there is feedback. The bit that
leaves the top position is lost. -/
def shiftIn (register : Register) (bit : Bool) : Register :=
  if register.feedback bit then (register <<< 1) ^^^ tap else register <<< 1

/-- Feed one byte bit by bit. -/
def pushSerial (register : Register) (byte : UInt8) : Register :=
  (inputBits byte).foldl shiftIn register

/-- The register that each byte leaves behind when it is fed to the empty register. -/
def table : Vector Register 256 :=
  Vector.ofFn fun byte => pushSerial empty (UInt8.ofNat byte)

/-- Feed one byte through the table. -/
def push (register : Register) (byte : UInt8) : Register :=
  let entry := (register <<< 1) ^^^ byte
  have inTable : entry.toNat < 256 := entry.toNat_lt
  table[entry.toNat]

/-- Feed a message byte by byte through the table. -/
def append (register : Register) (message : List UInt8) : Register :=
  message.foldl push register

/-- Feed a message bit by bit. -/
def appendSerial (register : Register) (message : List UInt8) : Register :=
  message.foldl pushSerial register

/-- The seven checksum bits. -/
def value (register : Register) : UInt8 := register &&& checksumMask

/-- The checksum byte as a frame carries it: the seven bits moved up one place
and the stop bit below them. -/
def framed (register : Register) : UInt8 := (register <<< 1) ||| stopBit

/-- The first byte of a message goes in before the others. -/
theorem append_cons (register : Register) (byte : UInt8) (rest : List UInt8) :
    register.append (byte :: rest) = (register.push byte).append rest := by
  rw [append, append, List.foldl_cons]

/-- Feeding two messages in turn is feeding them as one. -/
theorem append_append (register : Register) (first second : List UInt8) :
    register.append (first ++ second) = (register.append first).append second :=
  List.foldl_append

end Register

end CardCrc
