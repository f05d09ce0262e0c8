import CardCrc.Proofs.Message.Collisions

/-!
# One byte of a message

Whatever stands before and behind a byte, a suitable value of it gives the message
any checksum that there is. The bytes behind it move its remainder round the
cycle, the ones in front add to it, and both can be undone. What is left to reach
is one of the 128 remainders, and each of them is the remainder of a byte whose
first bit is clear.

There is exactly one other byte that does the same, because two bytes leave the
same remainder exactly when their sum is the generator.
-/

namespace CardCrc

/-- Every remainder is left by a byte. Seven bits are their own remainder, and a
clear bit in front of them does not matter. -/
theorem Remainder.exists_ofBits_inputBits (remainder : Remainder) :
    ∃ byte, ofBits (Register.inputBits byte) = remainder := by
  have vectors : ∀ word : Remainder, ofBits (Register.inputBits ⟨word.setWidth 8⟩) = word := by
    decide +kernel
  exact ⟨⟨remainder.setWidth 8⟩, vectors remainder⟩

/-- A byte can be chosen so that the message around it has any given remainder.
The choice undoes what the surroundings contribute and then the places that the
bytes behind it take. -/
theorem Remainder.exists_ofBits_around (front rest : List UInt8) (target : Remainder) :
    ∃ byte, ofBits (Message.bits (front ++ byte :: rest)) = target := by
  let surroundings := timesX^[8 * (rest.length + 1)] (ofBits (Message.bits front)) ^^^
    ofBits (Message.bits rest)
  obtain ⟨own, moved⟩ := iterate_surjective (8 * rest.length) (surroundings ^^^ target)
  obtain ⟨byte, leaves⟩ := exists_ofBits_inputBits own
  refine ⟨byte, ?_⟩
  calc
    ofBits (Message.bits (front ++ byte :: rest)) =
        surroundings ^^^ timesX^[8 * rest.length] own := by
      rw [ofBits_bits_around, leaves]
      simp only [surroundings]
      ac_rfl
    _ = target := by
      rw [moved, ← BitVec.xor_assoc, BitVec.xor_self, BitVec.zero_xor]

/-- Every odd byte is the framed checksum of a register, its upper seven bits. -/
theorem Register.exists_framed_eq (byte : UInt8) (odd : byte.toNat % 2 = 1) :
    ∃ register : Register, register.framed = byte := by
  have half : (byte >>> 1).toNat = byte.toNat / 2 := by
    rw [UInt8.toNat_shiftRight]
    exact Nat.shiftRight_one byte.toNat
  have bound : byte.toNat < 256 := byte.toNat_lt
  refine ⟨byte >>> 1, UInt8.toNat_inj.mp ?_⟩
  rw [framed_toNat, value_toNat, half]
  omega

namespace Message

/-- A byte can be chosen so that the message around it has any odd byte as its
checksum. -/
theorem exists_crc7_eq (front rest : List UInt8) (target : UInt8) (odd : target.toNat % 2 = 1) :
    ∃ byte, crc7 (front ++ byte :: rest) = target := by
  obtain ⟨register, rfl⟩ := Register.exists_framed_eq target odd
  obtain ⟨whole, moved⟩ := Remainder.iterate_surjective 7 register.remainder
  obtain ⟨byte, leaves⟩ := Remainder.exists_ofBits_around front rest whole
  refine ⟨byte, (Register.framed_eq_iff _ register).mpr ?_⟩
  rw [Register.append_eq_appendBits, Register.remainder_empty_appendBits, leaves, moved]

/-- In every place of every message there are exactly two bytes that bring its
checksum to a given odd byte, and their sum is the generator. -/
theorem two_bytes_reach (front rest : List UInt8) (target : UInt8)
    (odd : target.toNat % 2 = 1) :
    ∃ first second : UInt8, first ≠ second ∧ first ^^^ second = 0x89 ∧
      ∀ byte, crc7 (front ++ byte :: rest) = target ↔ byte = first ∨ byte = second := by
  obtain ⟨first, reached⟩ := exists_crc7_eq front rest target odd
  have sum : first ^^^ (first ^^^ 0x89) = 0x89 := Register.xor_xor_cancel first 0x89
  refine ⟨first, first ^^^ 0x89, ?_, sum, ?_⟩
  · intro same
    rw [← same, UInt8.xor_self] at sum
    exact absurd sum (by decide)
  · intro byte
    have other : byte ^^^ first = 0x89 ↔ byte = first ^^^ 0x89 := by
      rw [← UInt8.xor_right_inj first, UInt8.xor_comm byte, Register.xor_xor_cancel]
    rw [← reached, crc7_replaced_eq_iff, other]

/-- The header of a frame that checks the voltage keeps its checksum when its
second byte, which is zero, is replaced by the generator, and by no other byte. -/
theorem two_bytes_reach_sendIfCond :
    (0x87 : UInt8).toNat % 2 = 1 ∧
      ∀ byte, crc7 ([0x48] ++ byte :: [0x00, 0x01, 0xAA]) = 0x87 ↔ byte = 0x00 ∨ byte = 0x89 := by
  have odd : (0x87 : UInt8).toNat % 2 = 1 := by decide
  obtain ⟨first, second, -, sum, reached⟩ := two_bytes_reach [0x48] [0x00, 0x01, 0xAA] 0x87 odd
  refine ⟨odd, fun byte => ?_⟩
  rcases (reached 0x00).mp (by decide +kernel) with rfl | rfl
  · obtain rfl : second = 0x89 := by rwa [UInt8.zero_xor] at sum
    exact reached byte
  · obtain rfl : first = 0x89 := by rwa [UInt8.xor_zero] at sum
    exact (reached byte).trans or_comm

end Message

end CardCrc
