import CardCrc.Proofs.Message.Damage

/-!
# Messages with the same checksum

Two messages have the same checksum exactly when they leave the same remainder.
For messages of one length this says that their difference, as a polynomial, is
a multiple of the generator. The difference is taken bit by bit, the first bit
of the first byte being at place zero, and its length does not matter.

A difference within eight places is such a multiple in one way only. A multiple
of the generator of degree seven is the generator itself, whose bits stand at
the first, the fifth and the eighth of those places. So of all bursts that short
one pattern goes unnoticed, at every place of a message of any length, and a
burst of seven bits or fewer never does.
-/

namespace CardCrc

namespace Remainder

/-- A run of up to seven bits is known from its length and its remainder. -/
theorem ofBits_injective (bits others : List Bool) (sameLength : bits.length = others.length)
    (short : bits.length ≤ 7) (same : ofBits bits = ofBits others) : bits = others := by
  apply List.reverse_injective
  apply List.ext_getElem
  · rw [List.length_reverse, List.length_reverse, sameLength]
  · intro place within inside
    have bit := getLsbD_ofBits bits short place
    have other := getLsbD_ofBits others (sameLength ▸ short) place
    rw [List.getElem?_eq_getElem within, Option.getD_some] at bit
    rw [List.getElem?_eq_getElem inside, Option.getD_some] at other
    rw [← bit, ← other, same]

/-- The generator, with its leading coefficient first. -/
def generatorBits : List Bool := [true, false, false, false, true, false, false, true]

/-- Up to eight bits that begin with a set one are a multiple of the generator
only if they are the generator. -/
theorem ofBits_eq_zero_iff_generator (rest : List Bool) (short : rest.length ≤ 7) :
    ofBits (true :: rest) = 0#7 ↔ true :: rest = generatorBits := by
  constructor
  · intro vanished
    by_cases seven : rest.length = 7
    · have leading := ofBits_first_set [] rest List.not_mem_nil
      rw [List.nil_append, vanished, seven, iterate_seven_one] at leading
      have same : ofBits rest = ofBits generatorBits.tail :=
        (BitVec.xor_eq_zero_iff.mp leading.symm).symm.trans (by decide)
      have tail := ofBits_injective rest generatorBits.tail seven short same
      rw [tail]
      rfl
    · have fits : (true :: rest).length ≤ 7 := by
        rw [List.length_cons]
        omega
      exact absurd vanished (ofBits_ne_zero_of_short _ List.mem_cons_self fits)
  · intro same
    rw [same]
    decide

/-- A byte is a multiple of the generator only if it is zero or the generator
itself, which has eight bits. -/
theorem ofBits_inputBits_eq_zero_iff (byte : UInt8) :
    ofBits (Register.inputBits byte) = 0#7 ↔ byte = 0 ∨ byte = 0x89 := by
  have vectors : ∀ word : BitVec 8,
      ofBits (Register.inputBits ⟨word⟩) = 0#7 ↔ word = 0#8 ∨ word = 0x89#8 := by
    decide +kernel
  rw [← UInt8.toBitVec_inj, ← UInt8.toBitVec_inj]
  exact vectors byte.toBitVec

/-- Set bits within the eight places from the first of them on are a multiple of
the generator exactly when they stand where the generator has its own. -/
theorem ofBits_eq_zero_iff_places (bits : List Bool) (first : Nat)
    (set : bits[first]? = some true)
    (inWindow : ∀ place, bits[place]? = some true → first ≤ place ∧ place < first + 8) :
    ofBits bits = 0#7 ↔ ∀ place, bits[place]? = some true ↔
      place = first ∨ place = first + 4 ∨ place = first + 7 := by
  have windowPlace (offset : Nat) (inside : offset < 8) :
      ((bits.drop first).take 8)[offset]? = bits[first + offset]? := by
    rw [List.getElem?_take_of_lt inside, List.getElem?_drop]
  have generatorPlace : ∀ offset < 8, generatorBits[offset]? = some true ↔
      offset = 0 ∨ offset = 4 ∨ offset = 7 := by decide
  obtain ⟨rest, window⟩ : ∃ rest, (bits.drop first).take 8 = true :: rest := by
    have head := windowPlace 0 (by decide)
    rw [Nat.add_zero, set] at head
    exact List.head?_eq_some_iff.mp (List.head?_eq_getElem?.trans head)
  have short : rest.length ≤ 7 := by
    have width := List.length_take_le 8 (bits.drop first)
    rw [window, List.length_cons] at width
    omega
  rw [ofBits_window bits first 8 inWindow, iterate_eq_zero_iff, window,
    ofBits_eq_zero_iff_generator rest short, ← window]
  constructor
  · intro same place
    constructor
    · intro found
      obtain ⟨lower, upper⟩ := inWindow place found
      have inside : place - first < 8 := by omega
      have offset := windowPlace (place - first) inside
      rw [Nat.add_sub_cancel' lower, found, same] at offset
      have known := (generatorPlace _ inside).mp offset
      omega
    · intro known
      have inside : place - first < 8 := by omega
      have offset := windowPlace (place - first) inside
      rw [Nat.add_sub_cancel' (by omega : first ≤ place), same] at offset
      rw [← offset]
      exact (generatorPlace _ inside).mpr (by omega)
  · intro places
    have last : bits[first + 7]? = some true := (places _).mpr (Or.inr (Or.inr rfl))
    have enough : first + 7 < bits.length := (List.getElem?_eq_some_iff.mp last).1
    have width : ((bits.drop first).take 8).length = 8 := by
      rw [List.length_take, List.length_drop]
      omega
    apply List.ext_getElem width
    intro offset within inside
    have found := windowPlace offset inside
    rw [List.getElem?_eq_getElem within] at found
    have known := generatorPlace offset inside
    rw [List.getElem?_eq_getElem inside] at known
    rw [Bool.eq_iff_iff, ← Option.some_inj (a := generatorBits[offset]), known,
      ← Option.some_inj, found, places]
    omega

end Remainder

namespace Message

/-- Two messages differ at a place, counted in bits from their beginning. -/
def Differ (message other : List UInt8) (place : Nat) : Prop :=
  (bits message)[place]? ≠ (bits other)[place]?

instance (message other : List UInt8) (place : Nat) : Decidable (Differ message other place) :=
  inferInstanceAs (Decidable (_ ≠ _))

/-- Messages of one length differ where their sum has a set bit. -/
theorem getElem?_bits_sum_iff (message other : List UInt8)
    (sameLength : message.length = other.length) (place : Nat) :
    (bits (sum message other))[place]? = some true ↔ Differ message other place := by
  have sameBits : (bits message).length = (bits other).length := by
    rw [length_bits, length_bits, sameLength]
  rw [bits_sum message other sameLength, List.getElem?_zipWith, Differ]
  by_cases inside : place < (bits message).length
  · rw [List.getElem?_eq_getElem inside, List.getElem?_eq_getElem (sameBits ▸ inside)]
    simp
  · rw [List.getElem?_eq_none (by omega), List.getElem?_eq_none (by omega)]
    simp

/-- Messages of one length differ within this length only. -/
theorem Differ.lt {message other : List UInt8} {place : Nat} (differ : Differ message other place)
    (sameLength : message.length = other.length) : place < 8 * message.length := by
  by_contra outside
  apply differ
  rw [List.getElem?_eq_none (by rw [length_bits]; omega),
    List.getElem?_eq_none (by rw [length_bits]; omega)]

end Message

namespace Register

/-- Moving a register up leaves nothing exactly when its checksum bits are
clear. -/
theorem shiftLeft_eq_zero_iff (register : Register) :
    register <<< 1 = 0 ↔ register.remainder = 0#7 := by
  have vectors : ∀ word : BitVec 8, word <<< 1 = 0#8 ↔ word.setWidth 7 = 0#7 := by
    decide +kernel
  rw [← UInt8.toBitVec_inj]
  exact vectors register.toBitVec

/-- Framed registers are the same exactly when their checksum bits are. -/
theorem framed_eq_iff (register other : Register) :
    register.framed = other.framed ↔ register.remainder = other.remainder := by
  calc
    register.framed = other.framed ↔ register <<< 1 = other <<< 1 := by
      rw [framed_eq_xor, framed_eq_xor, UInt8.xor_left_inj]
    _ ↔ (register ^^^ other) <<< 1 = 0 := by
      rw [UInt8.shiftLeft_xor, UInt8.xor_eq_zero_iff]
    _ ↔ register.remainder = other.remainder := by
      rw [shiftLeft_eq_zero_iff, remainder_sum, BitVec.xor_eq_zero_iff]

end Register

namespace Message

/-- Messages of any lengths have the same checksum exactly when they leave the
same remainder. -/
theorem crc7_eq_iff_ofBits (message other : List UInt8) :
    crc7 message = crc7 other ↔
      Remainder.ofBits (bits message) = Remainder.ofBits (bits other) := by
  rw [crc7, crc7, Register.framed_eq_iff, Register.append_eq_appendBits,
    Register.append_eq_appendBits, Register.remainder_empty_appendBits,
    Register.remainder_empty_appendBits, (Remainder.timesX_injective.iterate 7).eq_iff]

/-- Messages of one length have the same checksum exactly when their sum is a
multiple of the generator. -/
theorem crc7_eq_iff (message other : List UInt8) (sameLength : message.length = other.length) :
    crc7 message = crc7 other ↔ Remainder.ofBits (bits (sum message other)) = 0#7 := by
  have sameBits : (bits message).length = (bits other).length := by
    rw [length_bits, length_bits, sameLength]
  rw [crc7_eq_iff_ofBits, bits_sum message other sameLength,
    Remainder.ofBits_sum _ _ sameBits, BitVec.xor_eq_zero_iff]

/-- Two bytes in one place of a message give the same checksum exactly when they
are equal or their sum is the generator, whatever stands before and behind. -/
theorem crc7_replaced_eq_iff (front rest : List UInt8) (byte other : UInt8) :
    crc7 (front ++ byte :: rest) = crc7 (front ++ other :: rest) ↔
      byte = other ∨ byte ^^^ other = 0x89 := by
  calc
    crc7 (front ++ byte :: rest) = crc7 (front ++ other :: rest) ↔
        Remainder.timesX^[8 * rest.length] (Remainder.ofBits (Register.inputBits byte)) =
          Remainder.timesX^[8 * rest.length] (Remainder.ofBits (Register.inputBits other)) := by
      rw [crc7_eq_iff_ofBits, Remainder.ofBits_bits_around, Remainder.ofBits_bits_around,
        BitVec.xor_right_inj, BitVec.xor_left_inj]
    _ ↔ Remainder.ofBits (Register.inputBits byte) = Remainder.ofBits (Register.inputBits other) :=
      (Remainder.timesX_injective.iterate _).eq_iff
    _ ↔ Remainder.ofBits (Register.inputBits (byte ^^^ other)) = 0#7 := by
      rw [Remainder.ofBits_inputBits_xor, BitVec.xor_eq_zero_iff]
    _ ↔ byte = other ∨ byte ^^^ other = 0x89 := by
      rw [Remainder.ofBits_inputBits_eq_zero_iff, UInt8.xor_eq_zero_iff]

/-- Different messages of one length differ at some place. -/
theorem exists_differ (message other : List UInt8) (sameLength : message.length = other.length)
    (different : message ≠ other) : ∃ place, Differ message other place := by
  have maskLength : message.length = (sum message other).length := by
    simp [sum, sameLength]
  by_contra same
  have clear : true ∉ bits (sum message other) := by
    intro member
    obtain ⟨place, found⟩ := List.mem_iff_getElem?.mp member
    exact same ⟨place, (getElem?_bits_sum_iff message other sameLength place).mp found⟩
  have unchanged := sum_clear message (sum message other) maskLength clear
  rw [sum_sum message other sameLength] at unchanged
  exact different unchanged.symm

/-- Different messages of one length, whose differences lie within eight places
in a row, have the same checksum exactly when they differ at a place, four places
later and seven places later and nowhere else. If the differences lie within
seven places the checksums are never the same. -/
theorem short_burst_unnoticed_iff (message other : List UInt8)
    (sameLength : message.length = other.length) (different : message ≠ other) :
    (∀ first, (∀ place, Differ message other place → first ≤ place ∧ place < first + 8) →
      (crc7 message = crc7 other ↔ ∃ start, ∀ place, Differ message other place ↔
        place = start ∨ place = start + 4 ∨ place = start + 7)) ∧
    ∀ first, (∀ place, Differ message other place → first ≤ place ∧ place < first + 7) →
      crc7 message ≠ crc7 other := by
  have present := exists_differ message other sameLength different
  have differ := getElem?_bits_sum_iff message other sameLength
  constructor
  · intro first inWindow
    -- The window may as well begin at the first difference.
    let earliest := Nat.find present
    have found : Differ message other earliest := Nat.find_spec present
    have narrowed : ∀ place, (bits (sum message other))[place]? = some true →
        earliest ≤ place ∧ place < earliest + 8 := by
      intro place set
      have here := (differ place).mp set
      have later : earliest ≤ place := Nat.find_min' present here
      have bounds := inWindow place here
      have start := inWindow earliest found
      omega
    rw [crc7_eq_iff message other sameLength,
      Remainder.ofBits_eq_zero_iff_places _ earliest ((differ earliest).mpr found) narrowed]
    simp only [differ]
    constructor
    · intro places
      exact ⟨earliest, places⟩
    · rintro ⟨start, places⟩
      have atStart : Differ message other start := (places start).mpr (Or.inl rfl)
      have later : earliest ≤ start := Nat.find_min' present atStart
      have known := (places earliest).mp found
      have same : start = earliest := by omega
      rw [← same]
      exact places
  · intro first inWindow
    rw [Ne, crc7_eq_iff message other sameLength]
    apply Remainder.ofBits_ne_zero_of_burst
    · obtain ⟨place, here⟩ := present
      exact List.mem_iff_getElem?.mpr ⟨place, (differ place).mpr here⟩
    · exact ⟨first, fun place set => inWindow place ((differ place).mp set)⟩

/-- Three flips that go unnoticed, two of them in the next byte, and a burst of
seven flips across two bytes. -/
theorem short_burst_unnoticed_iff_three_bytes :
    (∀ place, Differ [0x12, 0x34, 0x56] [0x1A, 0xA4, 0x56] place ↔
        place = 4 ∨ place = 4 + 4 ∨ place = 4 + 7) ∧
      crc7 [0x12, 0x34, 0x56] = crc7 [0x1A, 0xA4, 0x56] ∧
      (∀ place, Differ [0x12, 0x34, 0x56] [0x12, 0x35, 0xAA] place ↔
        15 ≤ place ∧ place < 15 + 7) ∧
      crc7 [0x12, 0x34, 0x56] ≠ crc7 [0x12, 0x35, 0xAA] := by
  have threeInside : ∀ place < 24, Differ [0x12, 0x34, 0x56] [0x1A, 0xA4, 0x56] place ↔
      place = 4 ∨ place = 4 + 4 ∨ place = 4 + 7 := by decide
  have sevenInside : ∀ place < 24, Differ [0x12, 0x34, 0x56] [0x12, 0x35, 0xAA] place ↔
      15 ≤ place ∧ place < 15 + 7 := by decide
  have three : ∀ place, Differ [0x12, 0x34, 0x56] [0x1A, 0xA4, 0x56] place ↔
      place = 4 ∨ place = 4 + 4 ∨ place = 4 + 7 := by
    intro place
    constructor
    · exact fun differ => (threeInside place (differ.lt rfl)).mp differ
    · exact fun known => (threeInside place (by omega)).mpr known
  have seven : ∀ place, Differ [0x12, 0x34, 0x56] [0x12, 0x35, 0xAA] place ↔
      15 ≤ place ∧ place < 15 + 7 := by
    intro place
    constructor
    · exact fun differ => (sevenInside place (differ.lt rfl)).mp differ
    · exact fun known => (sevenInside place (by omega)).mpr known
  have unnoticed := (short_burst_unnoticed_iff [0x12, 0x34, 0x56] [0x1A, 0xA4, 0x56] rfl
    (by decide)).1 4 fun place differ => by
      have known := (three place).mp differ
      omega
  have noticed := (short_burst_unnoticed_iff [0x12, 0x34, 0x56] [0x12, 0x35, 0xAA] rfl
    (by decide)).2 15 fun place differ => (seven place).mp differ
  exact ⟨three, unnoticed.mpr ⟨4, three⟩, seven, noticed⟩

end Message

end CardCrc
