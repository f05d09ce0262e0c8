import CardCrc.Proofs.Frame.Decoding
import CardCrc.Proofs.Message.Damage

/-!
# Corrupted frames

A frame that arrives with one or two bits flipped, or with any bits flipped
within seven places in a row, is refused. The places are counted over all six
bytes, so the flips may lie across the header and the checksum and may touch the
start bits and the stop bit. Which fault is reported depends on the start bits
alone, because they are checked first.

What is refused cannot be another frame. Any two frames are therefore at least
three flips apart, and the places where they differ span more than seven.
-/

namespace CardCrc.Frame

/-- The damage flips one of the start bits. -/
def TouchesStart (mask : List UInt8) : Prop :=
  (Message.bits mask)[0]? = some true ∨ (Message.bits mask)[1]? = some true

/-- The bytes of any two frames are equally many. -/
theorem length_toBytes_eq (frame other : Frame) :
    frame.toBytes.length = other.toBytes.length := by
  simp [toBytes, header, argumentBytes]

/-- A frame begins with the start bits. -/
theorem begins_toBytes (frame : Frame) : Begins frame.toBytes :=
  (begins_cons _ _).mpr (first_and_startMask frame)

/-- The received start bits are right exactly when neither was flipped. -/
theorem begins_sum_iff (frame : Frame) (mask : List UInt8) (six : mask.length = length) :
    Begins (Message.sum frame.toBytes mask) ↔ ¬ TouchesStart mask := by
  obtain ⟨firstSent, secondSent⟩ := begins_toBytes frame
  have sameLength : frame.toBytes.length = mask.length := six.symm
  have enough : (Message.bits mask).length = 48 := by rw [Message.length_bits, six]; rfl
  have firstFlip := List.getElem?_eq_getElem (show 0 < (Message.bits mask).length by omega)
  have secondFlip := List.getElem?_eq_getElem (show 1 < (Message.bits mask).length by omega)
  simp only [Begins, TouchesStart, Message.bits_sum _ _ sameLength, List.getElem?_zipWith,
    firstSent, secondSent, firstFlip, secondFlip]
  simp

/-- A slightly damaged frame does not end in the checksum of what it begins with. -/
theorem not_sealed_sum (frame : Frame) (mask : List UInt8) (six : mask.length = length)
    (slight : Message.Slight mask) : ¬ Sealed (Message.sum frame.toBytes mask) := by
  obtain ⟨first, a, b, c, d, last, rfl⟩ := exists_six_bytes mask six
  intro closing
  have unnoticed : crc7 frame.header ^^^ last =
      crc7 (Message.sum frame.header [first, a, b, c, d]) := Option.some.inj closing
  have short : [first, a, b, c, d].length ≤ 14 := by simp
  exact Message.crc7_sum_ne frame.header [first, a, b, c, d] last rfl short slight unnoticed

/-- Slight damage is reported as wrong start bits if it touches them and as a
wrong checksum if it does not. -/
theorem ofBytes_sum (frame : Frame) (mask : List UInt8) (six : mask.length = length)
    (slight : Message.Slight mask) :
    (TouchesStart mask → ∃ first, (Message.sum frame.toBytes mask)[0]? = some first ∧
      ofBytes (Message.sum frame.toBytes mask) = .error (.startBits first)) ∧
    (¬ TouchesStart mask → ∃ last, (Message.sum frame.toBytes mask)[5]? = some last ∧
      ofBytes (Message.sum frame.toBytes mask) =
        .error (.checksumMismatch last (crc7 ((Message.sum frame.toBytes mask).take 5)))) := by
  let received := Message.sum frame.toBytes mask
  have sixReceived : received.length = length := by
    simp only [received, Message.sum, List.length_zipWith, six]
    rfl
  have noSeal : ¬ Sealed received := not_sealed_sum frame mask six slight
  obtain ⟨first, a, b, c, d, last, bytes⟩ := exists_six_bytes received sixReceived
  have firstPlace : received[0]? = some first := by rw [bytes]; rfl
  have lastPlace : received[5]? = some last := by rw [bytes]; rfl
  constructor
  · intro touched
    have noStart : ¬ Begins received :=
      fun start => (begins_sum_iff frame mask six).mp start touched
    exact ⟨first, firstPlace, (ofBytes_eq_startBits_iff received first).mpr
      ⟨sixReceived, noStart, firstPlace⟩⟩
  · intro untouched
    have start : Begins received := (begins_sum_iff frame mask six).mpr untouched
    exact ⟨last, lastPlace, (ofBytes_eq_checksumMismatch_iff received last _).mpr
      ⟨sixReceived, start, noSeal, lastPlace, rfl⟩⟩

/-- The damage that turns one frame into another is not slight. -/
theorem not_slight_between (frame other : Frame) :
    ¬ Message.Slight (Message.sum frame.toBytes other.toBytes) := by
  intro slight
  have arrived : Message.sum frame.toBytes (Message.sum frame.toBytes other.toBytes) =
      other.toBytes := Message.sum_sum _ _ (length_toBytes_eq frame other)
  -- What arrives is the other frame, which is read without a fault.
  obtain ⟨touched, untouched⟩ := ofBytes_sum frame _ rfl slight
  rw [arrived, ofBytes_toBytes] at touched untouched
  by_cases start : TouchesStart (Message.sum frame.toBytes other.toBytes)
  · obtain ⟨first, -, refused⟩ := touched start
    exact nomatch refused
  · obtain ⟨last, -, refused⟩ := untouched start
    exact nomatch refused

/-- Different frames differ in some bit. -/
theorem exists_difference (frame other : Frame) (different : frame ≠ other) :
    true ∈ Message.bits (Message.sum frame.toBytes other.toBytes) := by
  have sameLength : frame.toBytes.length =
      (Message.sum frame.toBytes other.toBytes).length := by
    simp [Message.sum, length_toBytes_eq frame other]
  by_contra clear
  have unchanged : Message.sum frame.toBytes (Message.sum frame.toBytes other.toBytes) =
      frame.toBytes := Message.sum_clear _ _ sameLength clear
  rw [Message.sum_sum _ _ (length_toBytes_eq frame other)] at unchanged
  exact different (eq_of_toBytes_eq frame other unchanged.symm)

/-- A frame that arrives slightly damaged is refused: one or two bits are
flipped, or some bits within seven places in a row. If a start bit is among them
the fault shows the first byte as it was received, and otherwise the last byte
as it was received and the checksum of the others. So the bytes of different
frames differ in three bits at least, and never within seven places only. -/
theorem slight_damage_refused :
    (∀ (frame : Frame) (mask : List UInt8), mask.length = 6 → true ∈ Message.bits mask →
      (Message.bits mask).count true ≤ 2 ∨ Message.Burst 7 (Message.bits mask) →
      (TouchesStart mask → ∃ first, (Message.sum frame.toBytes mask)[0]? = some first ∧
        ofBytes (Message.sum frame.toBytes mask) = .error (.startBits first)) ∧
      (¬ TouchesStart mask → ∃ last, (Message.sum frame.toBytes mask)[5]? = some last ∧
        ofBytes (Message.sum frame.toBytes mask) =
          .error (.checksumMismatch last (crc7 ((Message.sum frame.toBytes mask).take 5))))) ∧
    ∀ frame other : Frame, frame ≠ other →
      3 ≤ (Message.bits (Message.sum frame.toBytes other.toBytes)).count true ∧
        ¬ Message.Burst 7 (Message.bits (Message.sum frame.toBytes other.toBytes)) := by
  constructor
  · intro frame mask six present damage
    exact ofBytes_sum frame mask six ⟨present, damage⟩
  · intro frame other different
    have present := exists_difference frame other different
    have notSlight := not_slight_between frame other
    constructor
    · by_contra few
      exact notSlight ⟨present, Or.inl (by omega)⟩
    · intro burst
      exact notSlight ⟨present, Or.inr burst⟩

/-- Two flips, of the first start bit and of the stop bit, are wrong start bits.
Seven flips in a row, across the header and the checksum, are a wrong checksum.
Arguments next to each other have frames that are far apart. -/
theorem slight_damage_refused_sendIfCond :
    ofBytes (Message.sum (ofCommand .sendIfCond 0x1AA).toBytes [0x80, 0, 0, 0, 0, 0x01]) =
        .error (.startBits 0xC8) ∧
      ofBytes (Message.sum (ofCommand .sendIfCond 0x1AA).toBytes [0, 0, 0, 0, 0x0F, 0xE0]) =
        .error (.checksumMismatch 0x67 0x69) ∧
      3 ≤ (Message.bits (Message.sum (ofCommand .sendIfCond 0x1AA).toBytes
        (ofCommand .sendIfCond 0x1AB).toBytes)).count true := by
  have sent : (ofCommand .sendIfCond 0x1AA).toBytes = [0x48, 0, 0, 0x01, 0xAA, 0x87] := by
    decide +kernel
  have inWindow : ∀ place < 48, (Message.bits [0, 0, 0, 0, 0x0F, 0xE0])[place]? = some true →
      36 ≤ place ∧ place < 36 + 7 := by decide
  have burst : Message.Burst 7 (Message.bits [0, 0, 0, 0, 0x0F, 0xE0]) :=
    ⟨36, fun place found => inWindow place (List.getElem?_eq_some_iff.mp found).1 found⟩
  have untouched : ¬ TouchesStart [0, 0, 0, 0, 0x0F, 0xE0] := by
    unfold TouchesStart
    decide
  have refused := slight_damage_refused.1 (ofCommand .sendIfCond 0x1AA)
  obtain ⟨first, firstPlace, wrongStart⟩ :=
    (refused [0x80, 0, 0, 0, 0, 0x01] rfl (by decide) (Or.inl (by decide))).1
      (Or.inl (by decide))
  obtain ⟨last, lastPlace, wrongChecksum⟩ :=
    (refused [0, 0, 0, 0, 0x0F, 0xE0] rfl (by decide) (Or.inr burst)).2 untouched
  have apart := slight_damage_refused.2 (ofCommand .sendIfCond 0x1AA)
    (ofCommand .sendIfCond 0x1AB) (by decide)
  rw [sent] at firstPlace lastPlace wrongChecksum
  have firstByte : first = 0xC8 := (Option.some.inj firstPlace).symm
  have lastByte : last = 0x67 := (Option.some.inj lastPlace).symm
  have computed : crc7 ((Message.sum [0x48, 0, 0, 0x01, 0xAA, 0x87]
      [0, 0, 0, 0, 0x0F, 0xE0]).take 5) = 0x69 := by decide +kernel
  rw [firstByte] at wrongStart
  rw [lastByte, computed, ← sent] at wrongChecksum
  exact ⟨wrongStart, wrongChecksum, apart.1⟩

end CardCrc.Frame
