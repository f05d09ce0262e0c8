import CardCrc.Register
import CardCrc.Text.Numeral

/-!
# Steps of the register

A step describes one bit going into the register: where the bit comes from, what
it did and what it left behind. Beside the register it shows the input byte
moved up past the bit, in a word wide enough to keep every bit of it.
-/

namespace CardCrc

/-- The register after one input bit. -/
structure Step where
  /-- Which byte of the watched message the bit belongs to. -/
  byteIndex : Nat
  /-- Which bit of the byte it is, zero being the most significant. -/
  bitIndex : UInt8
  /-- The bit that entered. -/
  inputBit : Bool
  /-- Whether the tap was applied. -/
  feedback : Bool
  /-- The register that the step left behind. -/
  register : Register
  /-- The input byte moved up by one place more than `bitIndex`. -/
  shifted : UInt16
deriving DecidableEq

namespace Step

/-- The step that feeds one bit of a byte to a register. -/
def ofBit (register : Register) (byteIndex : Nat) (byte : UInt8) (position : Nat) : Step :=
  let bit := Register.inputBit byte position
  { byteIndex
    bitIndex := UInt8.ofNat position
    inputBit := bit
    feedback := register.feedback bit
    register := register.shiftIn bit
    shifted := byte.toUInt16 <<< UInt16.ofNat (position + 1) }

/-- A step as one line: the register and the moved byte in decimal. -/
def line (step : Step) : String :=
  Numeral.decimal step.register.toNat ++ " " ++ Numeral.decimal step.shifted.toNat

end Step

end CardCrc
