import CardCrc.Proofs.Message.Collisions
import Mathlib.Data.Nat.GCD.Basic

/-!
# Two changes to a message

A change to one byte of a message adds to its remainder what the change itself
leaves, moved up by the bits that follow the byte. Two changes therefore cancel
exactly when what they leave agrees after both have been moved up.

If both changes are the same, seen from the place where each is made, only the
distance between the two places matters. The remainders come round after 127
steps and not before, so the two cancel exactly when they are a multiple of 127
apart. Two flipped bits are counted in bits. Two bytes that change places differ
from the message by the same sum at both, and are counted in bytes, because
eight and 127 have no common factor. The bytes may also be equal, or their sum
may be the generator, which leaves nothing at any place.
-/

namespace CardCrc

/-- Two sums on top of a remainder cancel exactly when they are the same. -/
theorem Remainder.sum_sum_eq_self_iff (remainder first second : Remainder) :
    remainder ^^^ first ^^^ second = remainder ↔ first = second := by
  rw [BitVec.xor_assoc]
  constructor
  · intro unchanged
    have cancelled : remainder ^^^ (first ^^^ second) = remainder ^^^ 0#7 := by
      rw [unchanged, BitVec.xor_zero]
    exact BitVec.xor_eq_zero_iff.mp ((BitVec.xor_right_inj remainder).mp cancelled)
  · rintro rfl
    rw [BitVec.xor_self, BitVec.xor_zero]

namespace Message

/-- A message with some bits of one byte flipped. -/
def flipIn (message : List UInt8) (index : Nat) (flips : UInt8) : List UInt8 :=
  message.modify index (· ^^^ flips)

/-- A message with one bit flipped. The place is counted in bits from the
beginning, and the first bit of a byte is its most significant one. -/
def flipAt (message : List UInt8) (place : Nat) : List UInt8 :=
  flipIn message (place / 8) (0x80 >>> UInt8.ofNat (place % 8))

/-- Flipping bits of a byte leaves the length as it is. -/
@[simp] theorem length_flipIn (message : List UInt8) (index : Nat) (flips : UInt8) :
    (flipIn message index flips).length = message.length := by
  rw [flipIn, List.length_modify]

/-- Flipping a bit changes the bit at its place and no other. -/
theorem bits_flipAt (message : List UInt8) (place : Nat) :
    bits (flipAt message place) = (bits message).modify place not := by
  have flipped : ∀ position < 8, ∀ other < 8,
      Register.inputBit (0x80 >>> UInt8.ofNat position) other = decide (other = position) := by
    decide
  apply List.ext_getElem?
  intro other
  rw [List.getElem?_modify, getElem?_bits, getElem?_bits, flipAt, flipIn, List.getElem?_modify]
  cases message[other / 8]? with
  | none => rfl
  | some byte =>
    by_cases sameByte : place / 8 = other / 8
    · have samePlace : other % 8 = place % 8 ↔ place = other := by omega
      simp only [sameByte, if_true, Option.map_some, Option.map_eq_map, Register.inputBit_xor,
        flipped (place % 8) (Nat.mod_lt place (by decide)) (other % 8)
          (Nat.mod_lt other (by decide)), samePlace]
      by_cases same : place = other <;> simp [same]
    · have different : place ≠ other := fun same => sameByte (congrArg (· / 8) same)
      simp [sameByte, different]

/-- Flips within a byte add their own remainder, moved up by the bytes that
follow. -/
theorem ofBits_flipIn (message : List UInt8) (index : Nat) (flips : UInt8)
    (inside : index < message.length) :
    Remainder.ofBits (bits (flipIn message index flips)) =
      Remainder.ofBits (bits message) ^^^
        Remainder.timesX^[8 * (message.length - (index + 1))]
          (Remainder.ofBits (Register.inputBits flips)) := by
  obtain ⟨lead, byte, rest, rfl, rfl, flipped⟩ := List.exists_of_modify (· ^^^ flips) inside
  have follow : (lead ++ byte :: rest).length - (lead.length + 1) = rest.length := by
    rw [List.length_append, List.length_cons]
    omega
  rw [flipIn, flipped, follow, Remainder.ofBits_bits_around, Remainder.ofBits_bits_around,
    Remainder.ofBits_inputBits_xor, Remainder.iterate_sum]
  ac_rfl

/-- A flipped bit adds the power of x at its place. -/
theorem ofBits_flipAt (message : List UInt8) (place : Nat) (inside : place < 8 * message.length) :
    Remainder.ofBits (bits (flipAt message place)) =
      Remainder.ofBits (bits message) ^^^
        Remainder.timesX^[8 * message.length - (place + 1)] 1#7 := by
  have withinByte : ∀ position < 8, Remainder.ofBits
      (Register.inputBits (0x80 >>> UInt8.ofNat position)) =
        Remainder.timesX^[7 - position] 1#7 := by decide
  have follow : 8 * (message.length - (place / 8 + 1)) + (7 - place % 8) =
      8 * message.length - (place + 1) := by omega
  rw [flipAt, ofBits_flipIn message _ _ (by omega),
    withinByte (place % 8) (Nat.mod_lt place (by decide)), ← Function.iterate_add_apply, follow]

/-- A change made twice, once with more places behind it than the other time, goes
unnoticed exactly when it leaves nothing anyway or the two are a multiple of 127
places apart. -/
theorem repeated_change_unnoticed_iff (message changed : List UInt8) (change : Remainder)
    (less more : Nat) (ordered : less ≤ more)
    (twice : Remainder.ofBits (bits changed) = Remainder.ofBits (bits message) ^^^
      Remainder.timesX^[more] change ^^^ Remainder.timesX^[less] change) :
    crc7 changed = crc7 message ↔ change = 0#7 ∨ 127 ∣ more - less := by
  rw [crc7_eq_iff_ofBits, twice, Remainder.sum_sum_eq_self_iff,
    Remainder.iterate_eq_iterate_iff less more ordered]

/-- A message and the one with two bits flipped differ at these two places. -/
theorem differ_flipAt_flipAt (message : List UInt8) (first second : Nat) (ordered : first < second)
    (inside : second < 8 * message.length) (place : Nat) :
    Differ message (flipAt (flipAt message first) second) place ↔
      place = first ∨ place = second := by
  rw [Differ, bits_flipAt, bits_flipAt, List.getElem?_modify, List.getElem?_modify]
  by_cases within : place < (bits message).length
  · rw [List.getElem?_eq_getElem within]
    by_cases atFirst : first = place
    · have notSecond : second ≠ place := by omega
      simp [atFirst, notSecond]
    · by_cases atSecond : second = place
      · simp [atFirst, atSecond]
      · simp [atFirst, atSecond, Ne.symm atFirst, Ne.symm atSecond]
  · rw [List.getElem?_eq_none (Nat.le_of_not_lt within)]
    rw [length_bits] at within
    have beyond : ¬ (place = first ∨ place = second) := by omega
    simp [beyond]

/-- Flipping two bits of a message, and only these, leaves its checksum as it is
exactly when the two are a multiple of 127 places apart. -/
theorem two_flips_unnoticed_iff (message : List UInt8) (first second : Nat)
    (ordered : first < second) (inside : second < 8 * message.length) :
    (∀ place, Differ message (flipAt (flipAt message first) second) place ↔
      place = first ∨ place = second) ∧
    (crc7 (flipAt (flipAt message first) second) = crc7 message ↔ 127 ∣ second - first) := by
  have sameLength : (flipAt message first).length = message.length := length_flipIn _ _ _
  have twice : Remainder.ofBits (bits (flipAt (flipAt message first) second)) =
      Remainder.ofBits (bits message) ^^^
        Remainder.timesX^[8 * message.length - (first + 1)] 1#7 ^^^
        Remainder.timesX^[8 * message.length - (second + 1)] 1#7 := by
    rw [ofBits_flipAt _ second (sameLength ▸ inside), sameLength,
      ofBits_flipAt message first (Nat.lt_trans ordered inside)]
  have apart : 8 * message.length - (first + 1) - (8 * message.length - (second + 1)) =
      second - first := by omega
  have unit : (1#7 : Remainder) ≠ 0#7 := by decide
  refine ⟨differ_flipAt_flipAt message first second ordered inside, ?_⟩
  rw [repeated_change_unnoticed_iff _ _ _ _ _ (by omega) twice, apart]
  simp only [unit, false_or]

/-- Two flips a whole period apart, seventeen bytes from each other, go
unnoticed, and two flips in one byte do not. -/
theorem two_flips_unnoticed_iff_one_period :
    130 < 8 * (List.replicate 17 (0x5A : UInt8)).length ∧
      crc7 (flipAt (flipAt (List.replicate 17 0x5A) 3) 130) = crc7 (List.replicate 17 0x5A) ∧
      crc7 (flipAt (flipAt (List.replicate 17 0x5A) 3) 5) ≠ crc7 (List.replicate 17 0x5A) := by
  have inside : 130 < 8 * (List.replicate 17 (0x5A : UInt8)).length := by decide
  have period := (two_flips_unnoticed_iff (List.replicate 17 0x5A) 3 130 (by decide) inside).2
  have close := (two_flips_unnoticed_iff (List.replicate 17 0x5A) 3 5 (by decide) (by decide)).2
  exact ⟨inside, period.mpr (by decide), fun unnoticed => absurd (close.mp unnoticed) (by decide)⟩

/-- Exchanging two bytes flips the bits in which they differ, in both of them. -/
theorem exchange_eq_flipIn (message : List UInt8) (first second : Nat) (ordered : first < second)
    (inside : second < message.length) :
    (message.set first message[second]).set second message[first] =
      flipIn (flipIn message first (message[first] ^^^ message[second])) second
        (message[first] ^^^ message[second]) := by
  have forth : message[first] ^^^ (message[first] ^^^ message[second]) = message[second] :=
    Register.xor_xor_cancel _ _
  have back : message[second] ^^^ (message[first] ^^^ message[second]) = message[first] := by
    rw [UInt8.xor_comm message[first], Register.xor_xor_cancel]
  apply List.ext_getElem
  · simp
  · intro place _ _
    simp only [flipIn, List.getElem_set, List.getElem_modify]
    by_cases atSecond : second = place
    · subst place
      simp only [if_true, Nat.ne_of_lt ordered, if_false]
      exact back.symm
    · by_cases atFirst : first = place
      · subst place
        simp only [atSecond, if_true, if_false]
        exact forth.symm
      · simp only [atSecond, atFirst, if_false]

/-- Exchanging two bytes of a message leaves its checksum as it is exactly when
the bytes are equal, when their sum is the generator, or when they are a multiple
of 127 bytes apart. -/
theorem exchange_unnoticed_iff (message : List UInt8) (first second : Nat)
    (ordered : first < second) (inside : second < message.length) :
    crc7 ((message.set first message[second]).set second message[first]) = crc7 message ↔
      message[first] = message[second] ∨ message[first] ^^^ message[second] = 0x89 ∨
        127 ∣ second - first := by
  let difference := message[first] ^^^ message[second]
  have twice :
      Remainder.ofBits (bits (flipIn (flipIn message first difference) second difference)) =
      Remainder.ofBits (bits message) ^^^
        Remainder.timesX^[8 * (message.length - (first + 1))]
          (Remainder.ofBits (Register.inputBits difference)) ^^^
        Remainder.timesX^[8 * (message.length - (second + 1))]
          (Remainder.ofBits (Register.inputBits difference)) := by
    rw [ofBits_flipIn _ second _ (by rwa [length_flipIn]), length_flipIn,
      ofBits_flipIn message first _ (Nat.lt_trans ordered inside)]
  have apart : 8 * (message.length - (first + 1)) - 8 * (message.length - (second + 1)) =
      8 * (second - first) := by omega
  have bytewise : 127 ∣ 8 * (second - first) ↔ 127 ∣ second - first :=
    Nat.Coprime.dvd_mul_left (by decide)
  have nothing : Remainder.ofBits (Register.inputBits difference) = 0#7 ↔
      message[first] = message[second] ∨ message[first] ^^^ message[second] = 0x89 := by
    rw [Remainder.ofBits_inputBits_eq_zero_iff, UInt8.xor_eq_zero_iff]
  rw [exchange_eq_flipIn message first second ordered inside,
    repeated_change_unnoticed_iff _ _ _ _ _ (by omega) twice, apart, bytewise, nothing, or_assoc]

/-- The checksum tells the order of most bytes, but not of two whose sum is the
generator. -/
theorem exchange_unnoticed_iff_neighbours :
    crc7 [0x02, 0x01] ≠ crc7 [0x01, 0x02] ∧ crc7 [0x9B, 0x12] = crc7 [0x12, 0x9B] := by
  have ordinary := exchange_unnoticed_iff [0x01, 0x02] 0 1 (by decide) (by decide)
  have generator := exchange_unnoticed_iff [0x12, 0x9B] 0 1 (by decide) (by decide)
  exact ⟨fun unnoticed => absurd (ordinary.mp unnoticed) (by decide), generator.mpr (by decide)⟩

end Message

end CardCrc
