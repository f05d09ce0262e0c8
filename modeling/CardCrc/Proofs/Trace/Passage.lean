import CardCrc.Proofs.Register.Feeding
import Mathlib.Algebra.Group.Nat.Defs

/-!
# The passage of a byte

A byte of a watched message goes into a register in eight steps. The register
between two steps holds the bits that have entered so far, so every step is
determined by where the byte stands, what it is, and the register it met.

A step is described in numbers, without reference to how it is carried out: the
bit is a binary digit of the byte, the feedback compares it with the digit of
the register that moves into the top position, and the moved byte is an exact
multiple, for which the wider word always has room.
-/

namespace CardCrc

/-- What a step must say about a bit that enters a register: where it comes
from, what it met, and what it left behind. -/
structure Step.Describes (step : Step) (before : Register) (byteIndex : Nat) (byte : UInt8)
    (position : Nat) : Prop where
  /-- The byte is counted within the watched message. -/
  byteIndex_eq : step.byteIndex = byteIndex
  /-- The bit is counted from the most significant one. -/
  bitIndex_eq : step.bitIndex.toNat = position
  /-- The bit is a binary digit of the byte. -/
  inputBit_eq : step.inputBit = byte.toNat.testBit (7 - position)
  /-- There is feedback when the bit differs from the register's digit below the top. -/
  feedback_eq : step.feedback = (step.inputBit ^^ before.toNat.testBit 6)
  /-- The register is doubled in eight bits, and feedback adds the tap. -/
  register_eq : step.register.toNat =
    (before.toNat * 2 % 256) ^^^ (if step.feedback then 0x09 else 0)
  /-- The moved byte is exact. -/
  shifted_eq : step.shifted.toNat = byte.toNat * 2 ^ (position + 1)

namespace Step

/-- A bit of a byte is a binary digit of its number. -/
theorem inputBit_eq_testBit (byte : UInt8) (position : Nat) (inside : position < 8) :
    Register.inputBit byte position = byte.toNat.testBit (7 - position) := by
  simp only [Register.inputBit, BitVec.getMsbD, inside, decide_true, Bool.true_and,
    BitVec.getLsbD]
  rfl

/-- The feedback reads the register's digit below the top, as the step moves it
up. -/
theorem feedback_eq_testBit (register : Register) (bit : Bool) :
    register.feedback bit = (bit ^^ register.toNat.testBit 6) := by
  have arriving : (register <<< 1).toBitVec.msb = register.toNat.testBit 6 := by
    change (register <<< 1).toBitVec.msb = register.toBitVec.getLsbD 6
    simp [BitVec.msb_eq_getLsbD_last]
  rw [Register.feedback, arriving]

/-- A step doubles the register in eight bits and adds the tap where there is
feedback. -/
theorem shiftIn_toNat (register : Register) (bit : Bool) :
    (register.shiftIn bit).toNat =
      (register.toNat * 2 % 256) ^^^ (if register.feedback bit then 0x09 else 0) := by
  have moved : (register <<< 1).toNat = register.toNat * 2 % 256 := by
    rw [UInt8.toNat_shiftLeft, Nat.shiftLeft_eq]
    rfl
  cases applied : register.feedback bit
  · simp [Register.shiftIn, applied, moved]
  · simp only [Register.shiftIn, applied, if_true, UInt8.toNat_xor, moved]
    rfl

/-- Moving a byte up by at most eight places loses nothing in sixteen bits. -/
theorem shifted_toNat (byte : UInt8) (position : Nat) (inside : position < 8) :
    (byte.toUInt16 <<< UInt16.ofNat (position + 1)).toNat = byte.toNat * 2 ^ (position + 1) := by
  have places : (UInt16.ofNat (position + 1)).toNat % 16 = position + 1 := by
    rw [UInt16.toNat_ofNat_of_lt' (by change position + 1 < 65536; omega)]
    omega
  have power : 2 ^ (position + 1) ≤ 2 ^ 8 := Nat.pow_le_pow_right (by decide) (by omega)
  have room : byte.toNat * 2 ^ (position + 1) < 2 ^ 16 := by
    calc
      byte.toNat * 2 ^ (position + 1) ≤ byte.toNat * 2 ^ 8 := Nat.mul_le_mul_left _ power
      _ < 2 ^ 8 * 2 ^ 8 := Nat.mul_lt_mul_of_pos_right byte.toNat_lt (by decide)
      _ = 2 ^ 16 := by decide
  rw [UInt16.toNat_shiftLeft, places, Nat.shiftLeft_eq, UInt8.toNat_toUInt16]
  exact Nat.mod_eq_of_lt room

/-- The step of a bit says what it must. -/
theorem ofBit_describes (register : Register) (byteIndex : Nat) (byte : UInt8) (position : Nat)
    (inside : position < 8) :
    (ofBit register byteIndex byte position).Describes register byteIndex byte position where
  byteIndex_eq := rfl
  bitIndex_eq := UInt8.toNat_ofNat_of_lt' (by change position < 256; omega)
  inputBit_eq := inputBit_eq_testBit byte position inside
  feedback_eq := feedback_eq_testBit register (Register.inputBit byte position)
  register_eq := shiftIn_toNat register (Register.inputBit byte position)
  shifted_eq := shifted_toNat byte position inside

end Step

/-- One byte of a watched message on its way into a register. -/
structure Passage where
  /-- The register that the byte goes into. -/
  start : Register
  /-- Which byte of the watched message it is. -/
  byteIndex : Nat
  /-- The byte itself. -/
  byte : UInt8
deriving DecidableEq

namespace Passage

/-- The register once so many bits have entered. -/
def after (passage : Passage) (count : Nat) : Register :=
  passage.start.appendBits ((Register.inputBits passage.byte).take count)

/-- The step of one bit. -/
def step (passage : Passage) (position : Nat) : Step :=
  Step.ofBit (passage.after position) passage.byteIndex passage.byte position

/-- The eight steps in order. -/
def steps (passage : Passage) : List Step := (List.range 8).map passage.step

/-- The register once the whole byte has entered. -/
def finish (passage : Passage) : Register := passage.start.push passage.byte

/-- One more bit is one more step. -/
theorem after_succ (passage : Passage) (count : Nat) (inside : count < 8) :
    passage.after (count + 1) =
      (passage.after count).shiftIn (Register.inputBit passage.byte count) := by
  have entered : (Register.inputBits passage.byte)[count]? =
      some (Register.inputBit passage.byte count) := by
    simp [Register.inputBits, inside]
  rw [after, List.take_add_one, entered, Register.appendBits_append]
  rfl

/-- The last bit leaves what the table gives for the whole byte. -/
theorem after_eight (passage : Passage) : passage.after 8 = passage.finish := by
  rw [finish, Register.push_eq_pushSerial, after,
    List.take_of_length_le (Nat.le_of_eq (Register.length_inputBits passage.byte))]
  rfl

/-- The register that a step shows is the one after its bit. -/
theorem step_register (passage : Passage) (position : Nat) (inside : position < 8) :
    (passage.step position).register = passage.after (position + 1) :=
  (passage.after_succ position inside).symm

/-- The last step shows the register that the byte leaves behind. -/
theorem register_last (passage : Passage) : (passage.step 7).register = passage.finish := by
  rw [passage.step_register 7 (by decide), passage.after_eight]

/-- There are eight steps. -/
@[simp] theorem length_steps (passage : Passage) : passage.steps.length = 8 := by
  simp [steps]

/-- The steps are found by position. -/
theorem getElem?_steps (passage : Passage) (position : Nat) (inside : position < 8) :
    passage.steps[position]? = some (passage.step position) := by
  simp [steps, inside]

/-- Every step carries the index of its byte. -/
theorem byteIndex_of_mem_steps (passage : Passage) (step : Step) (member : step ∈ passage.steps) :
    step.byteIndex = passage.byteIndex := by
  obtain ⟨position, -, rfl⟩ := List.mem_map.mp member
  rfl

end Passage

end CardCrc
