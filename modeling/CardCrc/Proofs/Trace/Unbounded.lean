import CardCrc.Proofs.Register.Remainder
import CardCrc.Proofs.Trace.Listing
import Mathlib.Data.List.Forall2
import Mathlib.Data.Nat.Bitwise

/-!
# A register without bounds

The checksum can be worked out in numbers that have room for everything. The
register is doubled and the byte beside it is doubled, and what moves past the
eighth bit stays there. Only when the next byte begins is the register cut back
to eight bits, and the result is cut back at the very end.

The bits that have moved past the eighth one are stale. They are never read: both
comparisons look at the eighth bit, which was the one below before doubling, and
the tap changes the lower four bits only. So the low eight bits are at all times
those of the register that has no more than eight, and the byte is the one that a
step shows.
-/

namespace CardCrc

/-- A register, and the byte that goes into it, as numbers of any size. -/
structure Unbounded where
  /-- The register. -/
  register : Nat
  /-- The byte, doubled once for each of its bits that has entered. -/
  shifted : Nat

namespace Unbounded

/-- One bit. The tap is added when the eighth bit of the byte is not that of the
doubled register. -/
def step (state : Unbounded) : Unbounded :=
  let doubled := 2 * state.register
  { register :=
      if state.shifted.testBit 7 != doubled.testBit 7 then doubled ^^^ 0x09 else doubled
    shifted := 2 * state.shifted }

/-- The beginning of a byte, where the register is cut back. -/
def load (register : Nat) (byte : UInt8) : Unbounded where
  register := register % 256
  shifted := byte.toNat

/-- The state once so many bits of a byte have entered. -/
def after (register : Nat) (byte : UInt8) (count : Nat) : Unbounded :=
  step^[count] (load register byte)

/-- The register once a whole byte has entered. -/
def push (register : Nat) (byte : UInt8) : Nat := (after register byte 8).register

/-- The states behind all bits of a message, from a register on. -/
def statesFrom (register : Nat) : List UInt8 → List Unbounded
  | [] => []
  | byte :: rest =>
    (List.range 8).map (fun position => after register byte (position + 1)) ++
      statesFrom (push register byte) rest

/-- The states behind all bits of a message. -/
def states (message : List UInt8) : List Unbounded := statesFrom 0 message

/-- The checksum: the register is doubled, the stop bit is set, and the result cut
back to eight bits. -/
def checksum (message : List UInt8) : Nat := (2 * message.foldl push 0 ||| 1) % 256

/-- A state shows what a step of the eight-bit register shows: the low eight bits
of the register, and the byte exactly. -/
structure Agrees (state : Unbounded) (step : Step) : Prop where
  /-- Beyond the low eight bits the register is stale. -/
  register_eq : state.register % 256 = step.register.toNat
  /-- The byte has room for all its bits in the step as well. -/
  shifted_eq : state.shifted = step.shifted.toNat

/-- A step takes the low eight bits where the eight-bit register goes, if the
eighth bit of the byte is the one that enters. -/
theorem step_register (state : Unbounded) (register : Register) (bit : Bool)
    (same : state.register % 256 = register.toNat) (entering : state.shifted.testBit 7 = bit) :
    state.step.register % 256 = (register.shiftIn bit).toNat := by
  have doubled : 2 * state.register % 256 = register.toNat * 2 % 256 := by omega
  -- Doubling brings the bit below to the eighth place, and it is none of the stale ones.
  have inspected : (2 * state.register).testBit 7 = register.toNat.testBit 6 := by
    rw [← same, Nat.testBit_succ, Nat.mul_div_cancel_left state.register (by decide)]
    exact (Nat.testBit_mod_two_pow state.register 8 6).symm
  have feedback : (state.shifted.testBit 7 != (2 * state.register).testBit 7) =
      register.feedback bit := by
    rw [entering, inspected, Step.feedback_eq_testBit, Bool.bne_eq_xor]
  have next : state.step.register =
      if register.feedback bit then 2 * state.register ^^^ 0x09 else 2 * state.register := by
    simp only [step, feedback]
  rw [next, Step.shiftIn_toNat, ← doubled]
  cases register.feedback bit with
  | false => exact (Nat.xor_zero _).symm
  | true => exact Nat.xor_mod_two_pow (n := 8)

/-- The eighth bit of a byte that has been doubled is the next one to enter. -/
theorem testBit_shifted (byte : UInt8) (count : Nat) (inside : count < 8) :
    (byte.toNat * 2 ^ count).testBit 7 = Register.inputBit byte count := by
  rw [Step.inputBit_eq_testBit byte count inside, Nat.testBit_mul_two_pow]
  simp [Nat.le_of_lt_succ inside]

/-- While a byte enters, the state keeps to its passage: the low eight bits are the
register after so many bits, and the byte has been doubled so many times. -/
theorem after_eq (register : Nat) (passage : Passage)
    (same : register % 256 = passage.start.toNat) (count : Nat) (inside : count ≤ 8) :
    (after register passage.byte count).register % 256 = (passage.after count).toNat ∧
      (after register passage.byte count).shifted = passage.byte.toNat * 2 ^ count := by
  induction count with
  | zero =>
    constructor
    · exact (Nat.mod_mod register 256).trans same
    · exact (Nat.mul_one passage.byte.toNat).symm
  | succ count inductionHypothesis =>
    obtain ⟨sameRegister, sameShifted⟩ := inductionHypothesis (Nat.le_of_succ_le inside)
    have entering : (after register passage.byte count).shifted.testBit 7 =
        Register.inputBit passage.byte count := by
      rw [sameShifted, testBit_shifted passage.byte count inside]
    have next : after register passage.byte (count + 1) =
        (after register passage.byte count).step := Function.iterate_succ_apply' step count _
    rw [next]
    constructor
    · rw [passage.after_succ count inside]
      exact step_register _ _ _ sameRegister entering
    · change 2 * (after register passage.byte count).shifted = _
      rw [sameShifted, Nat.pow_succ', Nat.mul_left_comm]

/-- Every bit of a byte leaves a state that agrees with its step. -/
theorem after_agrees (register : Nat) (passage : Passage)
    (same : register % 256 = passage.start.toNat) (position : Nat) (inside : position < 8) :
    (after register passage.byte (position + 1)).Agrees (passage.step position) := by
  obtain ⟨sameRegister, sameShifted⟩ := after_eq register passage same (position + 1) inside
  constructor
  · rw [passage.step_register position inside, sameRegister]
  · rw [sameShifted]
    exact (Step.shifted_toNat passage.byte position inside).symm

/-- A whole byte leaves the low eight bits that the table gives. -/
theorem push_mod (register : Nat) (before : Register) (byte : UInt8)
    (same : register % 256 = before.toNat) :
    push register byte % 256 = (before.push byte).toNat := by
  let passage : Passage := { start := before, byteIndex := 0, byte }
  have whole := (after_eq register passage same 8 (Nat.le_refl 8)).1
  rw [Passage.after_eight] at whole
  exact whole

/-- The states of a message agree with the steps of its bytes one by one. -/
theorem statesFrom_agree (register : Nat) (before : Register) (byteIndex : Nat)
    (message : List UInt8) (same : register % 256 = before.toNat) :
    List.Forall₂ Agrees (statesFrom register message)
      ((before.passagesFrom byteIndex message).flatMap Passage.steps) := by
  induction message generalizing register before byteIndex with
  | nil => exact .nil
  | cons byte rest inductionHypothesis =>
    let passage : Passage := { start := before, byteIndex, byte }
    have own : List.Forall₂ Agrees
        ((List.range 8).map fun position => after register byte (position + 1))
        passage.steps := by
      rw [Passage.steps, List.forall₂_map_left_iff, List.forall₂_map_right_iff, List.forall₂_same]
      intro position inside
      exact after_agrees register passage same position (List.mem_range.mp inside)
    have others := inductionHypothesis (push register byte) (before.push byte) (byteIndex + 1)
      (push_mod register before byte same)
    exact List.rel_append own others

/-- A message leaves the low eight bits that it leaves in the register. -/
theorem foldl_push_mod (register : Nat) (before : Register) (message : List UInt8)
    (same : register % 256 = before.toNat) :
    message.foldl push register % 256 = (before.append message).toNat := by
  induction message generalizing register before with
  | nil => exact same
  | cons byte rest inductionHypothesis =>
    rw [List.foldl_cons, Register.append_cons]
    exact inductionHypothesis (push register byte) (before.push byte)
      (push_mod register before byte same)

/-- The result is cut back to what the eight-bit register gives when it is
framed. -/
theorem checksum_eq (message : List UInt8) : checksum message = (crc7 message).toNat := by
  have low := foldl_push_mod 0 Register.empty message rfl
  have stopped : 2 * message.foldl push 0 ||| 1 = 2 * message.foldl push 0 + 1 :=
    (Nat.two_pow_add_eq_or_of_lt (i := 1) (by decide) _).symm
  rw [checksum, stopped, crc7, Register.framed_toNat, Register.value_toNat]
  omega

/-- Calculating without bounds gives the checksum of every message, the one through
the table and the one bit by bit. There is one state for every bit, and each of
them agrees with the step that watching the message from the empty register on has
recorded for the bit. -/
theorem unbounded_agrees (message : List UInt8) :
    checksum message = (crc7 message).toNat ∧ checksum message = (crc7Serial message).toNat ∧
      (states message).length = 8 * message.length ∧
      List.Forall₂ Agrees (states message)
        (Recorder.observer.watch Register.empty message Recorder.empty).2.steps.toList := by
  have recorded := Recorder.holds_watch Register.empty message
  have agree := statesFrom_agree 0 Register.empty 0 message rfl
  rw [← Register.passages, ← recorded.steps_eq] at agree
  have serial : crc7 message = crc7Serial message := by
    rw [crc7, crc7Serial, Register.append_eq_appendSerial]
  refine ⟨checksum_eq message, ?_, ?_, agree⟩
  · rw [← serial]
    exact checksum_eq message
  · calc
      (states message).length = _ := agree.length_eq
      _ = 8 * message.length := by
        rw [Array.length_toList, recorded.size_steps, Register.length_passages]

/-- Beyond its fifth bit this byte leaves stale bits in the register: the register
of eight bits goes on to 50, 100 and 193. -/
example : (states [0x80]).map register = [9, 18, 36, 72, 153, 306, 612, 1217] := by decide

end Unbounded

end CardCrc
