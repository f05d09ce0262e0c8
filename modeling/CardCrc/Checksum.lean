import CardCrc.Fault
import CardCrc.Register

/-!
# The checksum of a message

The checksum of a message is the framed register it leaves behind, computed
through the table or bit by bit. Messages may also be given as integers; an
integer that is not a byte refuses the whole message, and is never truncated.
-/

namespace CardCrc

/-- The framed checksum of a message, through the table. -/
def crc7 (message : List UInt8) : UInt8 := (Register.empty.append message).framed

/-- The framed checksum of a message, bit by bit. -/
def crc7Serial (message : List UInt8) : UInt8 := (Register.empty.appendSerial message).framed

/-- An integer that is a byte, or the fault of the position it stands at. -/
def byteAt (index : Nat) (value : Int) : Except Fault UInt8 :=
  if 0 ≤ value ∧ value ≤ 255 then .ok (UInt8.ofNat value.toNat)
  else .error (.notByte index value)

/-- Feed integers from a position of the message on. -/
def Register.appendIntegers (register : Register) (index : Nat) :
    List Int → Except Fault Register
  | [] => .ok register
  | value :: rest => do
    let byte ← byteAt index value
    (register.push byte).appendIntegers (index + 1) rest

/-- The framed checksum of a message of integers. The first integer that is not
a byte is the fault. -/
def crc7OfIntegers (values : List Int) : Except Fault UInt8 :=
  (Register.empty.appendIntegers 0 values).map Register.framed

end CardCrc
