import CardCrc.Checksum
import CardCrc.HexText.Integer

/-!
# Bytes as hex text

A byte is written as a hex integer. A text that is no hex integer is malformed
and named whole, blanks included; one whose value is not a byte is out of
range. Bytes are written back as two digits each with a space between them.
-/

namespace CardCrc.HexText

/-- Read one byte. -/
def readByte (text : String) : Except Fault UInt8 :=
  match readInteger text.toList with
  | .ok value => byteAt 0 value
  | .error complaint => .error (complaint.about text)

/-- Read one byte that stands at a position of a longer input. -/
def readByteAt (index : Nat) (text : String) : Except Fault UInt8 :=
  (readByte text).mapError (Fault.atIndex index)

/-- Read one byte from each text, the first of them at position `index`. -/
def readBytesFrom (index : Nat) : List String → Except Fault (List UInt8)
  | [] => .ok []
  | text :: rest => do
    let byte ← readByteAt index text
    let bytes ← readBytesFrom (index + 1) rest
    return byte :: bytes

/-- Read one byte from each text. The first text refused is the fault. -/
def readBytes (texts : List String) : Except Fault (List UInt8) := readBytesFrom 0 texts

/-- Write bytes as two hex digits each, with a space between two bytes. -/
def write (bytes : List UInt8) : String := " ".intercalate (bytes.map Numeral.hexByte)

end CardCrc.HexText
