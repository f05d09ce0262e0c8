import CardCrc.Proofs.Register.Feeding
import CardCrc.Proofs.Register.Remainder

/-!
# Damage that a checksum finds

Damage to a message is a mask that is added to it. The checksum is linear, so
whether damage is found depends on the mask alone: it goes unnoticed exactly
when what it does to the checksum byte is what feeding it would do, and then the
mask, as a polynomial, is a multiple of the generator.

Two kinds of masks are never such multiples. One or two set bits are a power of
x, or the sum of two powers whose distance is smaller than the period 127. Bits
set within seven places in a row are a remainder of their own, moved up. Only
the length of the mask matters, so that the header, the checksum and the stop
bit are covered alike.
-/

namespace CardCrc

namespace Message

/-- All set bits are among so many places in a row. -/
def Burst (width : Nat) (bits : List Bool) : Prop :=
  ∃ first, ∀ place, bits[place]? = some true → first ≤ place ∧ place < first + width

/-- Damage of the two kinds that the checksum always finds. -/
def Slight (mask : List UInt8) : Prop :=
  true ∈ bits mask ∧ ((bits mask).count true ≤ 2 ∨ Burst 7 (bits mask))

/-- Damage done twice is undone. -/
theorem sum_sum (message mask : List UInt8) (sameLength : message.length = mask.length) :
    sum message (sum message mask) = mask := by
  apply List.ext_getElem
  · simp [sum, sameLength]
  · intro place within inside
    simp only [sum, List.getElem_zipWith]
    exact Register.xor_xor_cancel _ _

/-- A byte without set bits is zero. -/
theorem eq_zero_of_clear (byte : UInt8) (clear : true ∉ Register.inputBits byte) : byte = 0 := by
  apply UInt8.toBitVec_inj.mp
  apply BitVec.eq_of_getMsbD_eq
  intro position inside
  by_contra set
  have bit : Register.inputBit byte position = true := by
    simpa [Register.inputBit] using set
  apply clear
  rw [← bit]
  exact List.mem_map_of_mem (List.mem_range.mpr inside)

/-- A mask without set bits damages nothing. -/
theorem sum_clear (message mask : List UInt8) (sameLength : message.length = mask.length)
    (clear : true ∉ bits mask) : sum message mask = message := by
  have noFlips : ∀ flips ∈ mask, flips = 0 := by
    intro flips member
    exact eq_zero_of_clear flips fun set => clear (List.mem_flatMap.mpr ⟨flips, member, set⟩)
  apply List.ext_getElem
  · simp [sum, sameLength]
  · intro place within inside
    simp only [sum, List.getElem_zipWith]
    rw [noFlips _ (List.getElem_mem _), UInt8.xor_zero]

end Message

namespace Remainder

/-- The first set bit contributes the power of x at its place. -/
theorem ofBits_first_set (lead rest : List Bool) (leadClear : true ∉ lead) :
    ofBits (lead ++ true :: rest) = timesX^[rest.length] 1#7 ^^^ ofBits rest := by
  have alone : ofBits [true] = 1#7 := by decide
  rw [ofBits_clear_append lead _ leadClear, ← List.singleton_append, ofBits_append, alone]

/-- One or two set bits are no multiple of the generator. Two powers of x would
have to be equal, and they are not within a period. -/
theorem ofBits_ne_zero_of_few (bits : List Bool) (present : true ∈ bits)
    (few : bits.count true ≤ 2) (short : bits.length ≤ 127) : ofBits bits ≠ 0#7 := by
  have unit : 1#7 ≠ 0#7 := by decide
  obtain ⟨lead, rest, rfl, leadClear⟩ := List.eq_append_cons_of_mem present
  rw [ofBits_first_set lead rest leadClear]
  by_cases second : true ∈ rest
  · obtain ⟨gap, tail, rfl, gapClear⟩ := List.eq_append_cons_of_mem second
    have tailClear : true ∉ tail := by
      intro third
      have atLeast : 0 < tail.count true := List.count_pos_iff.mpr third
      simp only [List.count_append, List.count_cons_self] at few
      omega
    have places : (gap ++ true :: tail).length = tail.length + (gap.length + 1) := by
      rw [List.length_append, List.length_cons]
      omega
    rw [ofBits_first_set gap tail gapClear, ofBits_clear tail tailClear, BitVec.xor_zero]
    intro vanished
    rw [BitVec.xor_eq_zero_iff, places,
      iterate_eq_iterate_iff _ _ (Nat.le_add_right _ _), Nat.add_sub_cancel_left] at vanished
    obtain zero | divides := vanished
    · exact unit zero
    · have period : 127 ≤ gap.length + 1 := Nat.le_of_dvd (Nat.succ_pos gap.length) divides
      simp only [List.length_append, List.length_cons] at short
      omega
  · rw [ofBits_clear rest second, BitVec.xor_zero]
    exact fun vanished => unit ((iterate_eq_zero_iff rest.length 1#7).mp vanished)

/-- Up to seven bits are their own remainder. -/
theorem ofBits_ne_zero_of_short (bits : List Bool) (present : true ∈ bits)
    (short : bits.length ≤ 7) : ofBits bits ≠ 0#7 := by
  intro vanished
  obtain ⟨place, inside, found⟩ := List.mem_iff_getElem.mp (List.mem_reverse.mpr present)
  have seen := getLsbD_ofBits bits short place
  rw [vanished, List.getElem?_eq_getElem inside, found] at seen
  simp at seen

/-- When all set bits are among so many places in a row, only these places
matter: nothing is set before them, and what follows them multiplies by x. -/
theorem ofBits_window (bits : List Bool) (first width : Nat)
    (inWindow : ∀ place, bits[place]? = some true → first ≤ place ∧ place < first + width) :
    ofBits bits =
      timesX^[((bits.drop first).drop width).length] (ofBits ((bits.drop first).take width)) := by
  have leadClear : true ∉ bits.take first := by
    intro member
    obtain ⟨place, found⟩ := List.mem_iff_getElem?.mp member
    rw [List.getElem?_take] at found
    split at found
    case isTrue before =>
      have bounds := inWindow place found
      omega
    case isFalse => exact nomatch found
  have tailClear : true ∉ (bits.drop first).drop width := by
    intro member
    obtain ⟨place, found⟩ := List.mem_iff_getElem?.mp member
    rw [List.getElem?_drop, List.getElem?_drop] at found
    have bounds := inWindow (first + (width + place)) found
    omega
  have whole : bits =
      bits.take first ++ ((bits.drop first).take width ++ (bits.drop first).drop width) := by
    rw [List.take_append_drop, List.take_append_drop]
  conv_lhs => rw [whole]
  rw [ofBits_clear_append _ _ leadClear, ofBits_append_clear _ _ tailClear]

/-- Bits set within seven places are no multiple of the generator, as those
seven are none. -/
theorem ofBits_ne_zero_of_burst (bits : List Bool) (present : true ∈ bits)
    (burst : Message.Burst 7 bits) : ofBits bits ≠ 0#7 := by
  obtain ⟨first, inWindow⟩ := burst
  obtain ⟨place, found⟩ := List.mem_iff_getElem?.mp present
  have bounds := inWindow place found
  have windowSet : true ∈ (bits.drop first).take 7 := by
    apply List.mem_iff_getElem?.mpr
    refine ⟨place - first, ?_⟩
    rw [List.getElem?_take_of_lt (by omega), List.getElem?_drop, Nat.add_sub_cancel' bounds.1]
    exact found
  rw [ofBits_window bits first 7 inWindow]
  intro vanished
  exact ofBits_ne_zero_of_short _ windowSet (List.length_take_le 7 _)
    ((iterate_eq_zero_iff _ _).mp vanished)

/-- Slight damage is no multiple of the generator. -/
theorem ofBits_ne_zero_of_slight (mask : List UInt8) (slight : Message.Slight mask)
    (short : (Message.bits mask).length ≤ 127) : ofBits (Message.bits mask) ≠ 0#7 := by
  obtain ⟨present, few | burst⟩ := slight
  · exact ofBits_ne_zero_of_few _ present few short
  · exact ofBits_ne_zero_of_burst _ present burst

end Remainder

namespace Register

/-- The stop bit takes a place that moving up has cleared, so that setting it and
adding it are the same. -/
theorem framed_eq_xor (register : Register) :
    register.framed = (register <<< 1) ^^^ stopBit := by
  apply UInt8.toBitVec_inj.mp
  change (register <<< 1).toBitVec ||| 1#8 = (register <<< 1).toBitVec ^^^ 1#8
  rw [UInt8.toBitVec_shiftLeft]
  ext place inside
  cases place with
  | zero => simp
  | succ place => simp

end Register

namespace Message

/-- Damage to a message changes its checksum by the checksum of the damage, less
the stop bit, which both of them carry. -/
theorem crc7_sum (message mask : List UInt8) (sameLength : message.length = mask.length) :
    crc7 (sum message mask) = crc7 message ^^^ ((Register.empty.append mask) <<< 1) := by
  have linear : Register.empty.append (sum message mask) =
      Register.empty.append message ^^^ Register.empty.append mask :=
    Register.append_sum Register.empty Register.empty message mask sameLength
  rw [crc7, crc7, Register.framed_eq_xor, Register.framed_eq_xor, linear, UInt8.shiftLeft_xor]
  ac_rfl

/-- A message with its own checksum bits after it, and a clear bit where the stop
bit would be, is a multiple of the generator. -/
theorem ofBits_closed (message : List UInt8) :
    Remainder.ofBits (bits (message ++ [(Register.empty.append message) <<< 1])) = 0#7 := by
  let register := Register.empty.append message
  have emptied : Register.empty.append (message ++ [register <<< 1]) = Register.empty := by
    calc
      Register.empty.append (message ++ [register <<< 1]) = register.push (register <<< 1) :=
        Register.append_append Register.empty message [register <<< 1]
      _ = Register.empty := by rw [Register.push_eq_pushSerial, Register.pushSerial_own]
  have left := Register.remainder_empty_appendBits (bits (message ++ [register <<< 1]))
  rw [← Register.append_eq_appendBits, emptied] at left
  exact (Remainder.iterate_eq_zero_iff 7 _).mp left.symm

/-- Slight damage to a message and its checksum byte together is found, as long
as the two have at most fifteen bytes. -/
theorem crc7_sum_ne (message mask : List UInt8) (closing : UInt8)
    (sameLength : message.length = mask.length) (short : mask.length ≤ 14)
    (slight : Slight (mask ++ [closing])) :
    crc7 message ^^^ closing ≠ crc7 (sum message mask) := by
  intro unnoticed
  have own : closing = (Register.empty.append mask) <<< 1 := by
    rw [crc7_sum message mask sameLength] at unnoticed
    exact (UInt8.xor_right_inj (crc7 message)).mp unnoticed
  have withinPeriod : (bits (mask ++ [closing])).length ≤ 127 := by
    rw [length_bits, List.length_append, List.length_singleton]
    omega
  apply Remainder.ofBits_ne_zero_of_slight (mask ++ [closing]) slight withinPeriod
  rw [own]
  exact ofBits_closed mask

end Message

end CardCrc
