import CardCrc.Proofs.Blocks
import CardCrc.Register

/-!
# The register as a linear machine

One step moves the register and adds the tap where there is feedback. Moving
distributes over exclusive or, and the feedback is itself a sum of two bits, so
the register left by the sum of two inputs is the sum of the two registers left
by each alone. This holds of single bits, of bytes and of messages, and for
every pair of starting registers, the unused top bit included.

A register that is fed its own bits never sees feedback: each bit meets itself
at the top, and eight of them move everything out. With linearity this is why a
whole byte can be fed through a table that knows only the empty register.
-/

namespace CardCrc

/-- The bits of a message in the order in which they enter a register. -/
def Message.bits (message : List UInt8) : List Bool := message.flatMap Register.inputBits

/-- Two messages added byte by byte, as far as the shorter one goes. Added to a
message, the second one flips the bits that are set in it. -/
def Message.sum (first second : List UInt8) : List UInt8 := List.zipWith (· ^^^ ·) first second

namespace Register

/-- What a step adds to the moved register. -/
def correction (feedback : Bool) : UInt8 := if feedback then tap else 0

/-- Feed single bits, without regard to bytes. -/
def appendBits (register : Register) (bits : List Bool) : Register := bits.foldl shiftIn register

/-- Feeding two runs of bits in turn is feeding them as one. -/
theorem appendBits_append (register : Register) (first second : List Bool) :
    register.appendBits (first ++ second) = (register.appendBits first).appendBits second :=
  List.foldl_append

/-- A byte added twice is not there any more. -/
theorem xor_xor_cancel (first second : UInt8) : first ^^^ (first ^^^ second) = second := by
  rw [← UInt8.xor_assoc, UInt8.xor_self, UInt8.zero_xor]

/-- Two corrections at once cancel. -/
theorem correction_xor (first second : Bool) :
    correction (first ^^ second) = correction first ^^^ correction second := by
  cases first <;> cases second <;> rfl

/-- A step without its case distinction. -/
theorem shiftIn_eq_correction (register : Register) (bit : Bool) :
    register.shiftIn bit = (register <<< 1) ^^^ correction (register.feedback bit) := by
  cases applied : register.feedback bit <;> simp [shiftIn, correction, applied]

/-- A bit of a sum is the sum of the bits. -/
theorem inputBit_xor (first second : UInt8) (position : Nat) :
    inputBit (first ^^^ second) position =
      (inputBit first position ^^ inputBit second position) := by
  simp only [inputBit, UInt8.toBitVec_xor, BitVec.getMsbD_xor]

/-- The bits of a sum, position by position. -/
theorem inputBits_xor (first second : UInt8) :
    inputBits (first ^^^ second) =
      List.zipWith (· ^^ ·) (inputBits first) (inputBits second) := by
  simp only [inputBits, List.zipWith_map, List.zipWith_self]
  exact List.map_congr_left fun position _ => inputBit_xor first second position

/-- A byte is eight bits. -/
theorem length_inputBits (byte : UInt8) : (inputBits byte).length = 8 := by
  simp [inputBits]

/-- The feedback of a sum is the sum of the feedbacks. -/
theorem feedback_xor (first second : Register) (bit other : Bool) :
    feedback (first ^^^ second) (bit ^^ other) = (first.feedback bit ^^ second.feedback other) := by
  simp only [feedback, UInt8.shiftLeft_xor, UInt8.toBitVec_xor, BitVec.msb_xor]
  cases bit <;> cases other <;> simp

/-- One step is linear in the register and the bit together. -/
theorem shiftIn_xor (first second : Register) (bit other : Bool) :
    shiftIn (first ^^^ second) (bit ^^ other) = first.shiftIn bit ^^^ second.shiftIn other := by
  simp only [shiftIn_eq_correction, feedback_xor, correction_xor, UInt8.shiftLeft_xor]
  ac_rfl

/-- Feeding bits is linear. The two runs of bits must be equally long, because a
longer one would go on moving its register after the other has stopped. -/
theorem appendBits_xor (first second : Register) (bits others : List Bool)
    (sameLength : bits.length = others.length) :
    appendBits (first ^^^ second) (List.zipWith (· ^^ ·) bits others) =
      first.appendBits bits ^^^ second.appendBits others := by
  induction bits generalizing first second others with
  | nil =>
    have noOthers : others = [] := List.eq_nil_of_length_eq_zero sameLength.symm
    subst others
    rfl
  | cons bit rest inductionHypothesis =>
    cases others with
    | nil => simp at sameLength
    | cons other others =>
      have sameRest : rest.length = others.length := Nat.succ.inj sameLength
      calc
        appendBits (first ^^^ second) (List.zipWith (· ^^ ·) (bit :: rest) (other :: others)) =
            appendBits (shiftIn (first ^^^ second) (bit ^^ other))
              (List.zipWith (· ^^ ·) rest others) := rfl
        _ = appendBits (first.shiftIn bit ^^^ second.shiftIn other)
              (List.zipWith (· ^^ ·) rest others) := by rw [shiftIn_xor]
        _ = first.appendBits (bit :: rest) ^^^ second.appendBits (other :: others) :=
          inductionHypothesis (first.shiftIn bit) (second.shiftIn other) others sameRest

/-- Feeding a byte bit by bit is linear. -/
theorem pushSerial_xor (first second : Register) (byte other : UInt8) :
    pushSerial (first ^^^ second) (byte ^^^ other) =
      first.pushSerial byte ^^^ second.pushSerial other := by
  have sameLength : (inputBits byte).length = (inputBits other).length := by
    rw [length_inputBits, length_inputBits]
  change appendBits (first ^^^ second) (inputBits (byte ^^^ other)) = _
  rw [inputBits_xor]
  exact appendBits_xor first second (inputBits byte) (inputBits other) sameLength

/-- A bit equal to the one arriving at the top causes no feedback. -/
theorem shiftIn_own (register : Register) :
    register.shiftIn (register <<< 1).toBitVec.msb = register <<< 1 := by
  have quiet : register.feedback (register <<< 1).toBitVec.msb = false := by
    simp only [feedback, bne_self_eq_false]
  simp only [shiftIn, quiet, Bool.false_eq_true, if_false]

/-- A register that is fed its own bits, from the one below the top on, only
moves up. The statement is about bit vectors, where moving by the full width is
allowed and gives zero. -/
theorem appendBits_own (register : Register) (count : Nat) :
    (register.appendBits ((List.range count).map (inputBit (register <<< 1)))).toBitVec =
      register.toBitVec <<< count := by
  induction count with
  | zero => simp [appendBits]
  | succ count inductionHypothesis =>
    let moved := register.appendBits ((List.range count).map (inputBit (register <<< 1)))
    -- So far the register has only moved, so its top bit is the next one to be fed.
    have nextBit : inputBit (register <<< 1) count = (moved <<< 1).toBitVec.msb := by
      simp [inputBit, BitVec.msb_eq_getMsbD_zero, inductionHypothesis, moved, Nat.add_comm]
    have step : register.appendBits ((List.range (count + 1)).map (inputBit (register <<< 1))) =
        moved.shiftIn (inputBit (register <<< 1) count) := by
      simp [appendBits, moved, List.range_succ]
    rw [step, nextBit, shiftIn_own, BitVec.shiftLeft_add]
    simp [inductionHypothesis, moved]

/-- A register that is fed all its own bits ends up empty. -/
theorem pushSerial_own (register : Register) : register.pushSerial (register <<< 1) = empty := by
  apply UInt8.toBitVec_inj.mp
  have emptied := appendBits_own register 8
  rw [BitVec.shiftLeft_eq_zero (Nat.le_refl 8)] at emptied
  exact emptied

/-- Feeding a byte to a register is feeding their sum to the empty register. By
linearity the difference between the two is a register fed its own bits. -/
theorem pushSerial_moved (register : Register) (byte : UInt8) :
    empty.pushSerial ((register <<< 1) ^^^ byte) = register.pushSerial byte := by
  calc
    empty.pushSerial ((register <<< 1) ^^^ byte) =
        (register ^^^ register).pushSerial ((register <<< 1) ^^^ byte) := by
      rw [UInt8.xor_self]
      rfl
    _ = register.pushSerial (register <<< 1) ^^^ register.pushSerial byte :=
      pushSerial_xor register register (register <<< 1) byte
    _ = register.pushSerial byte := by
      rw [pushSerial_own]
      exact UInt8.zero_xor

/-- The table and the eight steps leave the same register behind. -/
theorem push_eq_pushSerial (register : Register) (byte : UInt8) :
    register.push byte = register.pushSerial byte := by
  simp only [push, table, Vector.getElem_ofFn, UInt8.ofNat_toNat]
  exact pushSerial_moved register byte

end Register

namespace Message

/-- The bits of the first byte come before those of the others. -/
theorem bits_cons (byte : UInt8) (rest : List UInt8) :
    bits (byte :: rest) = Register.inputBits byte ++ bits rest :=
  List.flatMap_cons

/-- The bits of messages in turn are those of the first and then of the second. -/
theorem bits_append (front rest : List UInt8) : bits (front ++ rest) = bits front ++ bits rest :=
  List.flatMap_append

/-- Every byte has eight bits. -/
theorem length_bits (message : List UInt8) : (bits message).length = 8 * message.length :=
  length_flatMap_uniform Register.inputBits 8 Register.length_inputBits message

/-- A place in a message lies in one of its bytes. -/
theorem getElem?_bits (message : List UInt8) (place : Nat) :
    (bits message)[place]? =
      message[place / 8]?.map fun byte => Register.inputBit byte (place % 8) := by
  have withinByte : place % 8 < 8 := Nat.mod_lt place (by decide)
  have found := getElem?_flatMap Register.inputBits 8 Register.length_inputBits message
    (place / 8) (place % 8) withinByte
  rw [Nat.div_add_mod] at found
  rw [bits, found]
  cases message[place / 8]? with
  | none => rfl
  | some byte => simp [Register.inputBits, withinByte]

/-- The bits of a sum are the sums of the bits. -/
theorem bits_sum (message mask : List UInt8) (sameLength : message.length = mask.length) :
    bits (sum message mask) = List.zipWith (· ^^ ·) (bits message) (bits mask) := by
  induction message generalizing mask with
  | nil => rfl
  | cons byte rest inductionHypothesis =>
    cases mask with
    | nil => simp at sameLength
    | cons flips others =>
      have sameRest : rest.length = others.length := Nat.succ.inj sameLength
      have sameWidth : (Register.inputBits byte).length = (Register.inputBits flips).length := by
        rw [Register.length_inputBits, Register.length_inputBits]
      calc
        bits (sum (byte :: rest) (flips :: others)) =
            Register.inputBits (byte ^^^ flips) ++ bits (sum rest others) := rfl
        _ = List.zipWith (· ^^ ·) (Register.inputBits byte) (Register.inputBits flips) ++
              List.zipWith (· ^^ ·) (bits rest) (bits others) := by
          rw [Register.inputBits_xor, inductionHypothesis others sameRest]
        _ = List.zipWith (· ^^ ·) (bits (byte :: rest)) (bits (flips :: others)) :=
          (List.zipWith_append sameWidth).symm

end Message

end CardCrc
