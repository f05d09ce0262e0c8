import CardCrc.Proofs.Frame.Decoding
import CardCrc.Proofs.Message.Collisions

/-!
# Checking a frame in one pass

A register that is fed a message and then the checksum byte of that message is
left with the tap alone. The seven checksum bits meet themselves and move out,
and only the stop bit is left to cause feedback. So whoever receives a frame can
feed all six bytes, the checksum included, and look at what is left.

With all eight bits of the register this finds the checksum byte exactly, since
no two bytes take a register to the same one. The checksum of all the bytes does
not show the top bit of the register, and there is one byte more that leaves the
same seven bits, the sum of the right one and the generator. Its last bit is
clear, so that asking for the stop bit rules it out.
-/

namespace CardCrc

namespace Register

/-- A register that is fed its own checksum byte is left with the tap, whatever
it was. -/
theorem push_framed (register : Register) : register.push register.framed = tap := by
  calc
    register.push register.framed =
        empty.pushSerial ((register <<< 1) ^^^ register.framed) := by
      rw [push_eq_pushSerial, pushSerial_moved]
    _ = empty.pushSerial stopBit := by
      rw [framed_eq_xor, xor_xor_cancel]
    _ = tap := by decide

/-- Different bytes take a register to different ones. By linearity a byte would
otherwise leave the empty register empty. -/
theorem push_injective (register : Register) : Function.Injective register.push := by
  have clear : ∀ word : BitVec 8, empty.pushSerial ⟨word⟩ = empty → word = 0#8 := by
    decide +kernel
  intro first second same
  rw [push_eq_pushSerial, push_eq_pushSerial] at same
  have unmoved : empty.pushSerial (first ^^^ second) = empty := by
    have sum := pushSerial_xor register register first second
    rw [same, UInt8.xor_self, UInt8.xor_self] at sum
    exact sum
  have zero : first ^^^ second = 0 := UInt8.toBitVec_inj.mp (clear _ unmoved)
  exact UInt8.xor_eq_zero_iff.mp zero

/-- The checksum byte is the one byte after a message that leaves the tap. -/
theorem append_closing_eq_tap_iff (message : List UInt8) (closing : UInt8) :
    empty.append (message ++ [closing]) = tap ↔ closing = crc7 message := by
  have last : empty.append (message ++ [closing]) = (empty.append message).push closing :=
    append_append empty message [closing]
  rw [last, ← push_framed (empty.append message), (push_injective _).eq_iff]
  rfl

end Register

namespace Message

/-- A checksum byte ends in the stop bit. -/
theorem crc7_odd (message : List UInt8) : (crc7 message).toNat % 2 = 1 := by
  rw [crc7, Register.framed, UInt8.toNat_or]
  exact Nat.or_mod_two_eq_one.mpr (Or.inr rfl)

/-- Two bytes after a message leave the checksum bits of the tap. -/
theorem crc7_closing_iff (message : List UInt8) (closing : UInt8) :
    crc7 (message ++ [closing]) = 0x13 ↔
      closing = crc7 message ∨ closing ^^^ crc7 message = 0x89 := by
  have right : crc7 (message ++ [crc7 message]) = 0x13 :=
    congrArg Register.framed ((Register.append_closing_eq_tap_iff message _).mpr rfl)
  rw [← right]
  exact crc7_replaced_eq_iff message [] closing (crc7 message)

/-- The checksum byte of a message is the odd byte that leaves the checksum bits
of the tap. -/
theorem eq_crc7_iff (message : List UInt8) (closing : UInt8) :
    closing = crc7 message ↔
      closing.toNat % 2 = 1 ∧ crc7 (message ++ [closing]) = 0x13 := by
  rw [crc7_closing_iff]
  constructor
  · rintro rfl
    exact ⟨crc7_odd message, Or.inl rfl⟩
  · rintro ⟨odd, right | shifted⟩
    · exact right
    · -- The sum of two odd bytes is even, and the generator is not.
      have parity : (closing ^^^ crc7 message).toNat % 2 = 1 := by
        rw [shifted]
        rfl
      rw [UInt8.toNat_xor, Nat.xor_mod_two_eq_one] at parity
      exact absurd (iff_of_true odd (crc7_odd message)) parity

end Message

namespace Frame

/-- A byte is the checksum of a message exactly when it is odd and the checksum
of both together is `0x13`, and exactly when both together leave `0x09` in the
register. So bytes are read as a frame exactly when there are six of them, they
begin with the start bits, the last of them is odd, and the checksum of all six
is `0x13`. -/
theorem accepted_in_one_pass :
    (∀ (message : List UInt8) (closing : UInt8),
      (closing = crc7 message ↔
        closing.toNat % 2 = 1 ∧ crc7 (message ++ [closing]) = 0x13) ∧
      (closing = crc7 message ↔ Register.empty.append (message ++ [closing]) = 0x09)) ∧
    ∀ bytes : List UInt8, (∃ frame, ofBytes bytes = .ok frame) ↔
      bytes.length = 6 ∧ Begins bytes ∧
        (∃ last, bytes[5]? = some last ∧ last.toNat % 2 = 1) ∧ crc7 bytes = 0x13 := by
  constructor
  · intro message closing
    exact ⟨Message.eq_crc7_iff message closing,
      (Register.append_closing_eq_tap_iff message closing).symm⟩
  · intro bytes
    rw [exists_ofBytes_eq_ok_iff]
    refine and_congr_right fun six => and_congr_right fun _ => ?_
    obtain ⟨first, a, b, c, d, last, rfl⟩ := exists_six_bytes bytes six
    have closing : Sealed [first, a, b, c, d, last] ↔ last = crc7 [first, a, b, c, d] :=
      Option.some_inj
    have lastByte : (∃ byte, [first, a, b, c, d, last][5]? = some byte ∧ byte.toNat % 2 = 1) ↔
        last.toNat % 2 = 1 := by simp
    rw [closing, lastByte]
    exact Message.eq_crc7_iff [first, a, b, c, d] last

end Frame

end CardCrc
