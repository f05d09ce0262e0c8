import CardCrc.Proofs.Message.Damage

/-!
# Sums of messages

Feeding a message is linear in the register and the message together, with all
eight bits of the register. The checksum byte is linear as well, apart from the
stop bit that every checksum carries: in a sum of two checksums it has
cancelled, and is added once more.

A register that is fed a message ends as the sum of two shares. Its own share is
what it becomes while zeros are fed, and the message's share is what the message
leaves in the empty register. The checksum of a message in two parts is
therefore known from the front followed by zeros and from the rest alone.
-/

namespace CardCrc

/-- Adding zeros changes nothing. -/
theorem Message.zeros_sum (message : List UInt8) :
    sum (List.replicate message.length 0) message = message := by
  apply List.ext_getElem
  · simp [sum]
  · intro place _ _
    simp only [sum, List.getElem_zipWith, List.getElem_replicate]
    exact UInt8.zero_xor

namespace Register

/-- Framing a sum adds the stop bit to the sum of the framed registers. -/
theorem framed_sum (first second : Register) :
    framed (first ^^^ second) = first.framed ^^^ second.framed ^^^ stopBit := by
  simp only [framed_eq_xor, UInt8.shiftLeft_xor]
  calc
    (first <<< 1) ^^^ (second <<< 1) ^^^ stopBit =
        (first <<< 1) ^^^ (second <<< 1) ^^^ stopBit ^^^ (stopBit ^^^ stopBit) := by
      rw [UInt8.xor_self, UInt8.xor_zero]
    _ = ((first <<< 1) ^^^ stopBit) ^^^ ((second <<< 1) ^^^ stopBit) ^^^ stopBit := by ac_rfl

/-- What a register holds and what it is fed contribute to the result
separately. -/
theorem append_shares (register : Register) (message : List UInt8) :
    register.append message =
      register.append (List.replicate message.length 0) ^^^ empty.append message := by
  calc
    register.append message =
        append (register ^^^ empty) (Message.sum (List.replicate message.length 0) message) := by
      rw [Message.zeros_sum]
      exact congrArg (append · message) UInt8.xor_zero.symm
    _ = register.append (List.replicate message.length 0) ^^^ empty.append message :=
      append_sum register empty _ message List.length_replicate

/-- Feeding messages of one length is linear: the sum of two registers, fed the
sum of two messages, becomes the sum of what each register becomes with its own
message. So the checksum of a sum of messages is the sum of their checksums and
the stop bit. The checksum of a message in two parts is the sum of the stop bit,
the checksum of the rest, and that of the front followed by a zero for every byte
of the rest. -/
theorem feeding_is_linear :
    (∀ (first second : Register) (message other : List UInt8), message.length = other.length →
      append (first ^^^ second) (Message.sum message other) =
        first.append message ^^^ second.append other) ∧
    (∀ message other : List UInt8, message.length = other.length →
      crc7 (Message.sum message other) = crc7 message ^^^ crc7 other ^^^ 0x01) ∧
    ∀ front rest : List UInt8,
      crc7 (front ++ rest) = crc7 (front ++ List.replicate rest.length 0) ^^^ crc7 rest ^^^ 0x01 := by
  refine ⟨append_sum, ?_, ?_⟩
  · intro message other sameLength
    have linear := append_sum empty empty message other sameLength
    calc
      crc7 (Message.sum message other) =
          framed (empty.append message ^^^ empty.append other) := congrArg framed linear
      _ = crc7 message ^^^ crc7 other ^^^ 0x01 := framed_sum _ _
  · intro front rest
    have shares : empty.append (front ++ rest) =
        empty.append (front ++ List.replicate rest.length 0) ^^^ empty.append rest := by
      rw [append_append, append_append]
      exact append_shares (empty.append front) rest
    calc
      crc7 (front ++ rest) = framed (empty.append (front ++ List.replicate rest.length 0) ^^^
          empty.append rest) := congrArg framed shares
      _ = crc7 (front ++ List.replicate rest.length 0) ^^^ crc7 rest ^^^ 0x01 := framed_sum _ _

/-- Registers with their top bit set, and a message of two bytes taken apart. -/
theorem feeding_is_linear_two_bytes :
    append (0xC1 ^^^ 0x79) [0x48 ^^^ 0x1A, 0x00 ^^^ 0xA4] =
        append 0xC1 [0x48, 0x00] ^^^ append 0x79 [0x1A, 0xA4] ∧
      crc7 [0x48 ^^^ 0x1A, 0x00 ^^^ 0xA4] = crc7 [0x48, 0x00] ^^^ crc7 [0x1A, 0xA4] ^^^ 0x01 ∧
      crc7 [0x48, 0x1A] = crc7 [0x48, 0x00] ^^^ crc7 [0x1A] ^^^ 0x01 :=
  ⟨feeding_is_linear.1 0xC1 0x79 [0x48, 0x00] [0x1A, 0xA4] rfl,
    feeding_is_linear.2.1 [0x48, 0x00] [0x1A, 0xA4] rfl, feeding_is_linear.2.2 [0x48] [0x1A]⟩

end Register

end CardCrc
