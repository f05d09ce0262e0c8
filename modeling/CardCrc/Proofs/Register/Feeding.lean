import CardCrc.Checksum
import CardCrc.Proofs.Register.Linearity
import CardCrc.Trace.Observer

/-!
# Ways of feeding a register

A message goes into a register through the table, bit by bit, or bit by bit
under an observer's eyes. All of these leave the same register behind, with all
eight of its bits, from any register they start at. The observer is arbitrary:
its state is of any type and what it does with an event is not restricted, so
watching is proved to be free of effects on the register and not assumed so.

Each way is related to feeding the bits of the message one after another.
-/

namespace CardCrc

universe u

namespace Observer

variable {σ : Type u}

/-- Watching some bits of a byte feeds exactly these bits. -/
theorem watchBits_register (observer : Observer σ) (byteIndex : Nat) (byte : UInt8)
    (positions : List Nat) (run : Register × σ) :
    (positions.foldl (observer.watchBit byteIndex byte) run).1 =
      run.1.appendBits (positions.map (Register.inputBit byte)) := by
  induction positions generalizing run with
  | nil => rfl
  | cons position rest inductionHypothesis =>
    exact inductionHypothesis (observer.watchBit byteIndex byte run position)

/-- Watching a byte feeds the byte. The observer is shown the end of the byte
after the register has taken its last step. -/
theorem watchByte_register (observer : Observer σ) (byteIndex : Nat) (byte : UInt8)
    (run : Register × σ) :
    (observer.watchByte byteIndex byte run).1 = run.1.pushSerial byte :=
  watchBits_register observer byteIndex byte (List.range 8) run

/-- Watching bytes feeds them, whatever index the first of them is given. -/
theorem watchFrom_register (observer : Observer σ) (byteIndex : Nat) (message : List UInt8)
    (run : Register × σ) :
    (observer.watchFrom byteIndex message run).1 = run.1.appendSerial message := by
  induction message generalizing byteIndex run with
  | nil => rfl
  | cons byte rest inductionHypothesis =>
    have later := inductionHypothesis (byteIndex + 1) (observer.watchByte byteIndex byte run)
    rw [watchByte_register] at later
    exact later

end Observer

namespace Register

/-- The table and the bits agree on whole messages, from any register on. -/
theorem append_eq_appendSerial (register : Register) (message : List UInt8) :
    register.append message = register.appendSerial message := by
  have sameStep : push = pushSerial := by
    funext before byte
    exact push_eq_pushSerial before byte
  simp only [append, appendSerial, sameStep]

/-- Feeding a message is feeding its bits. -/
theorem append_eq_appendBits (register : Register) (message : List UInt8) :
    register.append message = register.appendBits (Message.bits message) := by
  rw [append_eq_appendSerial]
  induction message generalizing register with
  | nil => rfl
  | cons byte rest inductionHypothesis =>
    rw [Message.bits_cons, appendBits_append]
    exact inductionHypothesis (register.pushSerial byte)

/-- Feeding messages of one length is linear in the register and the message. -/
theorem append_sum (first second : Register) (message other : List UInt8)
    (sameLength : message.length = other.length) :
    append (first ^^^ second) (Message.sum message other) =
      first.append message ^^^ second.append other := by
  have sameBits : (Message.bits message).length = (Message.bits other).length := by
    rw [Message.length_bits, Message.length_bits, sameLength]
  simp only [append_eq_appendBits]
  rw [Message.bits_sum message other sameLength]
  exact appendBits_xor first second (Message.bits message) (Message.bits other) sameBits

/-- Every way of feeding a message to a register leaves the same register
behind: the table over the whole message, the table byte after byte, the eight
steps of every byte, and the watched steps under any observer. The checksum of a
message is therefore the same through the table and bit by bit. -/
theorem feeding_ways_agree {σ : Type u} (observer : Observer σ) (state : σ)
    (register : Register) (message : List UInt8) :
    message.foldl push register = register.append message ∧
      register.appendSerial message = register.append message ∧
      (observer.watch register message state).1 = register.append message ∧
      crc7 message = (empty.append message).framed ∧
      crc7 message = crc7Serial message := by
  have serial := append_eq_appendSerial register message
  have watched : (observer.watch register message state).1 = register.appendSerial message :=
    observer.watchFrom_register 0 message (register, state)
  have checksums : crc7 message = crc7Serial message := by
    simp only [crc7, crc7Serial, append_eq_appendSerial]
  exact ⟨rfl, serial.symm, watched.trans serial.symm, rfl, checksums⟩

end Register

end CardCrc
