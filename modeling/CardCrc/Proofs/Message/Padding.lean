import CardCrc.Proofs.Message.Collisions
import Mathlib.Data.Nat.GCD.Basic

/-!
# Zeros around a message

Zero bytes have no set bits, so all they can do to the remainder of a message is
to move it up. In front of a message they have nothing to move: long division
begins with the first set bit. The checksum therefore does not tell how many
zeros a message begins with.

Behind a message they move its remainder up by eight places each. A remainder of
zero stays where it is. Any other one goes round a cycle of 127 places, and as
eight and 127 have no common factor, it is back after 127 zero bytes and their
multiples only. So the checksum notices zeros that were added at the end or lost
there, with these two exceptions.
-/

namespace CardCrc.Message

/-- Zero bytes have no set bits. -/
theorem clear_bits_zeros (count : Nat) : true ∉ bits (List.replicate count 0) := by
  intro set
  obtain ⟨byte, member, setInByte⟩ := List.mem_flatMap.mp set
  obtain rfl : byte = 0 := List.eq_of_mem_replicate member
  exact absurd setInByte (by decide)

/-- A message without a remainder has the checksum of no message at all. -/
theorem crc7_eq_one_iff (message : List UInt8) :
    crc7 message = 0x01 ↔ Remainder.ofBits (bits message) = 0#7 :=
  crc7_eq_iff_ofBits message []

/-- Zeros in front of a message do not change its checksum. -/
theorem crc7_zeros_append (message : List UInt8) (count : Nat) :
    crc7 (List.replicate count 0 ++ message) = crc7 message := by
  rw [crc7_eq_iff_ofBits, bits_append]
  exact Remainder.ofBits_clear_append _ _ (clear_bits_zeros count)

/-- Zeros behind a message leave its checksum as it is exactly when they move its
remainder to where it was. -/
theorem crc7_append_zeros_eq_iff (message : List UInt8) (count : Nat) :
    crc7 (message ++ List.replicate count 0) = crc7 message ↔
      Remainder.timesX^[8 * count] (Remainder.ofBits (bits message)) =
        Remainder.ofBits (bits message) := by
  rw [crc7_eq_iff_ofBits, bits_append, Remainder.ofBits_append_clear _ _ (clear_bits_zeros count),
    length_bits, List.length_replicate]

/-- Zero bytes in front of a message never change its checksum. Zero bytes behind
it leave the checksum as it is exactly when the message has the checksum of
nothing or their number is a multiple of 127. -/
theorem padding_unnoticed_iff (message : List UInt8) (count : Nat) :
    crc7 (List.replicate count 0 ++ message) = crc7 message ∧
      (crc7 (message ++ List.replicate count 0) = crc7 message ↔
        crc7 message = 0x01 ∨ 127 ∣ count) := by
  have round : Remainder.timesX^[8 * count] (Remainder.ofBits (bits message)) =
      Remainder.ofBits (bits message) ↔
        Remainder.ofBits (bits message) = 0#7 ∨ 127 ∣ 8 * count :=
    Remainder.iterate_eq_iterate_iff 0 (8 * count) (Nat.zero_le _) _
  have bytewise : 127 ∣ 8 * count ↔ 127 ∣ count := Nat.Coprime.dvd_mul_left (by decide)
  constructor
  · exact crc7_zeros_append message count
  · calc
      crc7 (message ++ List.replicate count 0) = crc7 message ↔
          Remainder.ofBits (bits message) = 0#7 ∨ 127 ∣ 8 * count :=
        (crc7_append_zeros_eq_iff message count).trans round
      _ ↔ crc7 message = 0x01 ∨ 127 ∣ count := by
        rw [crc7_eq_one_iff, bytewise]

end CardCrc.Message
