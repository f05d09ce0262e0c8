import CardCrc.Frame
import CardCrc.Proofs.Register.Linearity

/-!
# Reading and writing frames

Writing a frame and reading it back are inverse to each other in both
directions: the bytes of a frame are read as that frame, and no other bytes are.
The first byte is put together from the start bits and the command number, which
share no places, and the argument is four bytes of a number below 2³².

Reading sorts all byte lists into four kinds. The checks are made in order, so
the kinds exclude each other: a wrong length is reported whatever the bytes are,
wrong start bits whatever the checksum is.
-/

namespace CardCrc.Frame

/-- The start bits `01` are the first two bits to enter. -/
def Begins (bytes : List UInt8) : Prop :=
  (Message.bits bytes)[0]? = some false ∧ (Message.bits bytes)[1]? = some true

/-- The sixth byte is the checksum of the five before it. -/
def Sealed (bytes : List UInt8) : Prop := bytes[5]? = some (crc7 (bytes.take 5))

/-- Six bytes, one by one. -/
theorem exists_six_bytes (bytes : List UInt8) (six : bytes.length = length) :
    ∃ first a b c d last, bytes = [first, a, b, c, d, last] := by
  match bytes, six with
  | [first, a, b, c, d, last], _ => exact ⟨first, a, b, c, d, last, rfl⟩

/-- The mask compares exactly the first two bits. -/
theorem begins_cons (first : UInt8) (rest : List UInt8) :
    Begins (first :: rest) ↔ first &&& startMask = startBits := by
  have masked : ∀ bits : BitVec 8,
      (bits.getMsbD 0 = false ∧ bits.getMsbD 1 = true) ↔ bits &&& 0xC0#8 = 0x40#8 := by
    decide +kernel
  have twoBits : Begins (first :: rest) ↔
      first.toBitVec.getMsbD 0 = false ∧ first.toBitVec.getMsbD 1 = true := by
    simp [Begins, Message.bits, Register.inputBits, Register.inputBit, List.range_succ]
  rw [twoBits, masked, ← UInt8.toBitVec_inj]
  rfl

/-- Masking a union is the union of what the mask leaves of its parts. -/
theorem or_and_distrib (first second mask : UInt8) :
    (first ||| second) &&& mask = (first &&& mask) ||| (second &&& mask) := by
  apply UInt8.toBitVec_inj.mp
  simp only [UInt8.toBitVec_and, UInt8.toBitVec_or, BitVec.and_or_distrib_right]

/-- The places of the start bits and of the command number make up the byte. -/
theorem startMask_or_largestIndex (byte : UInt8) :
    (byte &&& startMask) ||| (byte &&& largestIndex) = byte := by
  have allPlaces : startMask ||| largestIndex = -1 := by decide
  calc
    (byte &&& startMask) ||| (byte &&& largestIndex)
        = (startMask &&& byte) ||| (largestIndex &&& byte) := by
          rw [UInt8.and_comm byte startMask, UInt8.and_comm byte largestIndex]
    _ = (startMask ||| largestIndex) &&& byte := (or_and_distrib _ _ _).symm
    _ = byte := by rw [allPlaces, UInt8.and_comm, UInt8.and_neg_one]

/-- A command number lies within its six places. -/
theorem index_and_largestIndex (frame : Frame) :
    frame.index &&& largestIndex = frame.index := by
  have bounded : frame.index.toNat ≤ 63 := UInt8.le_iff_toNat_le.mp frame.index_le
  apply UInt8.toNat_inj.mp
  calc
    (frame.index &&& largestIndex).toNat = frame.index.toNat % 64 :=
      Nat.and_two_pow_sub_one_eq_mod frame.index.toNat 6
    _ = frame.index.toNat := Nat.mod_eq_of_lt (Nat.lt_succ_of_le bounded)

/-- A command number leaves the places of the start bits clear. -/
theorem index_and_startMask (frame : Frame) : frame.index &&& startMask = 0 := by
  rw [← index_and_largestIndex frame, UInt8.and_assoc]
  exact UInt8.and_zero

/-- The first byte shows the start bits. -/
theorem first_and_startMask (frame : Frame) :
    (startBits ||| frame.index) &&& startMask = startBits := by
  rw [or_and_distrib, index_and_startMask, UInt8.or_zero]
  rfl

/-- The first byte gives the command number back. -/
theorem first_and_largestIndex (frame : Frame) :
    (startBits ||| frame.index) &&& largestIndex = frame.index := by
  rw [or_and_distrib, index_and_largestIndex]
  exact UInt8.zero_or

/-- An argument is recovered from its four bytes. -/
theorem argumentOf_argumentBytes (argument : UInt32) :
    argumentOf (UInt8.ofNat (argument.toNat / 0x1000000)) (UInt8.ofNat (argument.toNat / 0x10000))
      (UInt8.ofNat (argument.toNat / 0x100)) (UInt8.ofNat argument.toNat) = argument := by
  apply UInt32.toNat_inj.mp
  have bounded : argument.toNat < 2 ^ 32 := argument.toNat_lt
  simp only [argumentOf, UInt8.toNat_ofNat', UInt32.toNat_ofNat']
  omega

/-- Four bytes are recovered from the argument they make. -/
theorem argumentBytes_argumentOf (first second third fourth : UInt8) :
    argumentBytes (argumentOf first second third fourth) = [first, second, third, fourth] := by
  have firstByte := first.toNat_lt
  have secondByte := second.toNat_lt
  have thirdByte := third.toNat_lt
  have fourthByte := fourth.toNat_lt
  have argument : (argumentOf first second third fourth).toNat =
      ((first.toNat * 256 + second.toNat) * 256 + third.toNat) * 256 + fourth.toNat := by
    simp only [argumentOf, UInt32.toNat_ofNat']
    omega
  simp only [argumentBytes, argument, List.cons.injEq, and_true]
  refine ⟨?_, ?_, ?_, ?_⟩ <;> apply UInt8.toNat_inj.mp <;> rw [UInt8.toNat_ofNat'] <;> omega

/-- The bytes of a frame are read as that frame. -/
theorem ofBytes_toBytes (frame : Frame) : ofBytes frame.toBytes = .ok frame := by
  have checked : frame.checksum = crc7 [startBits ||| frame.index,
      UInt8.ofNat (frame.argument.toNat / 0x1000000), UInt8.ofNat (frame.argument.toNat / 0x10000),
      UInt8.ofNat (frame.argument.toNat / 0x100), UInt8.ofNat frame.argument.toNat] := rfl
  simp only [toBytes, header, argumentBytes, List.cons_append, List.nil_append, ofBytes,
    first_and_startMask, checked, if_true, first_and_largestIndex, argumentOf_argumentBytes]

/-- Five bytes with the start bits are the header of a frame. -/
theorem exists_header (first a b c d : UInt8) (begins : first &&& startMask = startBits) :
    ∃ frame : Frame, frame.header = [first, a, b, c, d] := by
  refine ⟨⟨first &&& largestIndex, argumentOf a b c d, and_largestIndex_le first⟩, ?_⟩
  have firstByte : startBits ||| (first &&& largestIndex) = first := by
    rw [← begins]
    exact startMask_or_largestIndex first
  rw [header, firstByte, argumentBytes_argumentOf]

/-- All that reading can do, with the conditions under which it does it. The
bytes read as a frame are the frame's own bytes. -/
theorem ofBytes_cases (bytes : List UInt8) :
    (bytes.length ≠ length ∧ ofBytes bytes = .error (.frameLength length bytes.length)) ∨
      (bytes.length = length ∧ ¬ Begins bytes ∧
        ∃ first, bytes[0]? = some first ∧ ofBytes bytes = .error (.startBits first)) ∨
      (bytes.length = length ∧ Begins bytes ∧ ¬ Sealed bytes ∧
        ∃ received, bytes[5]? = some received ∧
          ofBytes bytes = .error (.checksumMismatch received (crc7 (bytes.take 5)))) ∨
      (bytes.length = length ∧ Begins bytes ∧ Sealed bytes ∧
        ∃ frame, ofBytes bytes = .ok frame ∧ frame.toBytes = bytes) := by
  by_cases six : bytes.length = length
  · obtain ⟨first, a, b, c, d, last, rfl⟩ := exists_six_bytes bytes six
    right
    by_cases begins : first &&& startMask = startBits
    · right
      have start : Begins [first, a, b, c, d, last] := (begins_cons first _).mpr begins
      by_cases intact : last = crc7 [first, a, b, c, d]
      · right
        have closing : Sealed [first, a, b, c, d, last] := congrArg some intact
        obtain ⟨frame, header⟩ := exists_header first a b c d begins
        have written : frame.toBytes = [first, a, b, c, d, last] := by
          rw [toBytes, checksum, header, ← intact]
          rfl
        have decoded : ofBytes [first, a, b, c, d, last] = .ok frame := by
          rw [← written]
          exact ofBytes_toBytes frame
        exact ⟨six, start, closing, frame, decoded, written⟩
      · left
        have noSeal : ¬ Sealed [first, a, b, c, d, last] := by
          intro closing
          exact intact (Option.some.inj closing)
        exact ⟨six, start, noSeal, last, rfl, by simp [ofBytes, begins, intact]⟩
    · left
      have noStart : ¬ Begins [first, a, b, c, d, last] :=
        fun start => begins ((begins_cons first _).mp start)
      exact ⟨six, noStart, first, rfl, by simp [ofBytes, begins]⟩
  · left
    refine ⟨six, ?_⟩
    unfold ofBytes
    split
    case h_1 => exact absurd rfl six
    case h_2 => rfl

/-- Bytes are read as a frame exactly when they are the bytes of that frame. -/
theorem ofBytes_eq_ok_iff (bytes : List UInt8) (frame : Frame) :
    ofBytes bytes = .ok frame ↔ frame.toBytes = bytes := by
  constructor
  · intro decoded
    rcases ofBytes_cases bytes with ⟨-, refused⟩ | ⟨-, -, byte, -, refused⟩ |
      ⟨-, -, -, received, -, refused⟩ | ⟨-, -, -, other, outcome, written⟩
    · simp [refused] at decoded
    · simp [refused] at decoded
    · simp [refused] at decoded
    · have same : other = frame := Except.ok.inj (outcome.symm.trans decoded)
      rw [← same]
      exact written
  · rintro rfl
    exact ofBytes_toBytes frame

/-- Different frames have different bytes. -/
theorem eq_of_toBytes_eq (frame other : Frame) (sameBytes : frame.toBytes = other.toBytes) :
    frame = other := by
  have decoded := ofBytes_toBytes frame
  rw [sameBytes, ofBytes_toBytes] at decoded
  exact (Except.ok.inj decoded).symm

/-- A wrong length is reported first, and nothing else is reported as one. -/
theorem ofBytes_eq_frameLength_iff (bytes : List UInt8) (expected found : Nat) :
    ofBytes bytes = .error (.frameLength expected found) ↔
      bytes.length ≠ length ∧ expected = length ∧ found = bytes.length := by
  rcases ofBytes_cases bytes with ⟨wrong, outcome⟩ | ⟨six, -, byte, -, outcome⟩ |
    ⟨six, -, -, received, -, outcome⟩ | ⟨six, -, -, frame, outcome, -⟩
  · simp [outcome, wrong, eq_comm]
  · simp [outcome, six]
  · simp [outcome, six]
  · simp [outcome, six]

/-- Wrong start bits are reported for six bytes whatever the checksum is. -/
theorem ofBytes_eq_startBits_iff (bytes : List UInt8) (byte : UInt8) :
    ofBytes bytes = .error (.startBits byte) ↔
      bytes.length = length ∧ ¬ Begins bytes ∧ bytes[0]? = some byte := by
  rcases ofBytes_cases bytes with ⟨wrong, outcome⟩ | ⟨six, noStart, first, place, outcome⟩ |
    ⟨-, start, -, received, -, outcome⟩ | ⟨-, start, -, frame, outcome, -⟩
  · simp [outcome, wrong]
  · simp [outcome, six, noStart, place]
  · simp [outcome, start]
  · simp [outcome, start]

/-- A wrong checksum is reported last, with the byte received and the checksum
computed. -/
theorem ofBytes_eq_checksumMismatch_iff (bytes : List UInt8) (received computed : UInt8) :
    ofBytes bytes = .error (.checksumMismatch received computed) ↔
      bytes.length = length ∧ Begins bytes ∧ ¬ Sealed bytes ∧ bytes[5]? = some received ∧
        computed = crc7 (bytes.take 5) := by
  rcases ofBytes_cases bytes with ⟨wrong, outcome⟩ | ⟨-, noStart, first, -, outcome⟩ |
    ⟨six, start, noSeal, last, place, outcome⟩ | ⟨-, -, closing, frame, outcome, -⟩
  · simp [outcome, wrong]
  · simp [outcome, noStart]
  · simp [outcome, six, start, noSeal, place, eq_comm]
  · simp [outcome, closing]

/-- Everything else is read as a frame. -/
theorem exists_ofBytes_eq_ok_iff (bytes : List UInt8) :
    (∃ frame, ofBytes bytes = .ok frame) ↔
      bytes.length = length ∧ Begins bytes ∧ Sealed bytes := by
  rcases ofBytes_cases bytes with ⟨wrong, outcome⟩ | ⟨-, noStart, first, -, outcome⟩ |
    ⟨-, -, noSeal, last, -, outcome⟩ | ⟨six, start, closing, frame, outcome, -⟩
  · simp [outcome, wrong]
  · simp [outcome, noStart]
  · simp [outcome, noSeal]
  · simp [outcome, six, start, closing]

/-- Frames and bytes determine each other. Every frame has a command number of
six bits and its bytes are read as it; bytes that are read as a frame are the
frame's own. Other bytes are refused for the first of the three checks that they
fail, with what the fault says about it. -/
theorem reading_exact :
    (∀ frame : Frame, frame.index.toNat ≤ 63 ∧ ofBytes frame.toBytes = .ok frame) ∧
      (∀ bytes frame, ofBytes bytes = .ok frame ↔ frame.toBytes = bytes) ∧
      ∀ bytes : List UInt8,
        (∀ expected found, ofBytes bytes = .error (.frameLength expected found) ↔
          bytes.length ≠ 6 ∧ expected = 6 ∧ found = bytes.length) ∧
        (∀ byte, ofBytes bytes = .error (.startBits byte) ↔
          bytes.length = 6 ∧ ¬ Begins bytes ∧ bytes[0]? = some byte) ∧
        (∀ received computed, ofBytes bytes = .error (.checksumMismatch received computed) ↔
          bytes.length = 6 ∧ Begins bytes ∧ ¬ Sealed bytes ∧ bytes[5]? = some received ∧
            computed = crc7 (bytes.take 5)) ∧
        ((∃ frame, ofBytes bytes = .ok frame) ↔
          bytes.length = 6 ∧ Begins bytes ∧ Sealed bytes) := by
  refine ⟨?_, ofBytes_eq_ok_iff, ?_⟩
  · intro frame
    exact ⟨UInt8.le_iff_toNat_le.mp frame.index_le, ofBytes_toBytes frame⟩
  · intro bytes
    exact ⟨ofBytes_eq_frameLength_iff bytes, ofBytes_eq_startBits_iff bytes,
      ofBytes_eq_checksumMismatch_iff bytes, exists_ofBytes_eq_ok_iff bytes⟩

end CardCrc.Frame
