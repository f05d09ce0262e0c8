import CardCrc.Proofs.Message.Collisions
import CardCrc.Proofs.Session.Effects

/-!
# What a register forgets

The top bit of a register is the one that the next step moves out, and the step
reads the register only after moving it. A register that has been fed at least
one byte therefore does not depend on the top bit it had before, and an observer
is shown the same events with and without it.

Nothing else is forgotten. Feeding moves the seven checksum bits round their
cycle and adds what the message leaves, both of which can be undone, so two
registers with different checksum bits never come together when they are fed the
same bytes.

Sessions whose registers agree in their checksum bits, and whose recorders agree,
are taken by every action to sessions of which the same holds. No sequence of
actions tells them apart by a checksum or by a recording.
-/

namespace CardCrc

namespace Register

/-- The checksum bits of two registers are the same exactly when the remainders
are. -/
theorem value_eq_iff_remainder (first second : Register) :
    first.value = second.value ↔ first.remainder = second.remainder := by
  constructor
  · intro same
    apply BitVec.eq_of_getLsbD_eq
    intro place _
    rw [← getLsbD_value, same, getLsbD_value]
  · intro same
    apply UInt8.toBitVec_inj.mp
    apply BitVec.eq_of_getLsbD_eq
    intro place _
    rw [getLsbD_value, same, ← getLsbD_value]

/-- Registers with the same checksum bits are equal or differ in the top bit
only. -/
theorem value_eq_iff (first second : Register) :
    first.value = second.value ↔ first = second ∨ first ^^^ second = 0x80 := by
  have vectors : ∀ word : BitVec 8, word.setWidth 7 = 0#7 ↔ word = 0#8 ∨ word = 0x80#8 := by
    decide
  calc
    first.value = second.value ↔ remainder (first ^^^ second) = 0#7 := by
      rw [value_eq_iff_remainder, remainder_sum, BitVec.xor_eq_zero_iff]
    _ ↔ first ^^^ second = 0 ∨ first ^^^ second = 0x80 := by
      rw [← UInt8.toBitVec_inj, ← UInt8.toBitVec_inj]
      exact vectors (first ^^^ second).toBitVec
    _ ↔ first = second ∨ first ^^^ second = 0x80 := by
      rw [UInt8.xor_eq_zero_iff]

/-- Framing shows the checksum bits and nothing else. -/
theorem framed_eq_iff_value (first second : Register) :
    first.framed = second.framed ↔ first.value = second.value :=
  (framed_eq_iff first second).trans (value_eq_iff_remainder first second).symm

/-- Moving up drops the top bit and nothing else. -/
theorem shiftLeft_eq_iff_value (first second : Register) :
    first <<< 1 = second <<< 1 ↔ first.value = second.value := by
  rw [← framed_eq_iff_value, framed_eq_xor, framed_eq_xor, UInt8.xor_left_inj]

/-- The same bits, fed to two registers, neither bring different checksum bits
together nor take equal ones apart. -/
theorem value_appendBits_eq_iff (first second : Register) (bits : List Bool) :
    (first.appendBits bits).value = (second.appendBits bits).value ↔
      first.value = second.value := by
  rw [value_eq_iff_remainder, value_eq_iff_remainder, remainder_appendBits, remainder_appendBits,
    BitVec.xor_left_inj, (Remainder.timesX_injective.iterate bits.length).eq_iff]

/-- The same holds of messages. -/
theorem value_append_eq_iff (first second : Register) (message : List UInt8) :
    (first.append message).value = (second.append message).value ↔ first.value = second.value := by
  rw [append_eq_appendBits, append_eq_appendBits, value_appendBits_eq_iff]

/-- A byte goes in as if the top bit had not been there. -/
theorem push_eq_of_value (first second : Register) (byte : UInt8)
    (same : first.value = second.value) : first.push byte = second.push byte := by
  have moved : first <<< 1 = second <<< 1 := (shiftLeft_eq_iff_value first second).mpr same
  rw [push_eq_pushSerial, push_eq_pushSerial, ← pushSerial_moved, moved, pushSerial_moved]

/-- After at least one byte the registers themselves are equal exactly when their
checksum bits were. -/
theorem append_eq_iff_value (first second : Register) (message : List UInt8)
    (fed : message ≠ []) :
    first.append message = second.append message ↔ first.value = second.value := by
  constructor
  · intro same
    exact (value_append_eq_iff first second message).mp (congrArg value same)
  · intro same
    obtain ⟨byte, rest, rfl⟩ := List.exists_cons_of_ne_nil fed
    rw [append_cons, append_cons, push_eq_of_value first second byte same]

/-- A step shows nothing of the top bit. -/
theorem ofBit_eq_of_value (first second : Register) (byteIndex : Nat) (byte : UInt8)
    (position : Nat) (same : first.value = second.value) :
    Step.ofBit first byteIndex byte position = Step.ofBit second byteIndex byte position := by
  have moved : first <<< 1 = second <<< 1 := (shiftLeft_eq_iff_value first second).mpr same
  have sameFeedback (bit : Bool) : first.feedback bit = second.feedback bit := by
    rw [feedback, feedback, moved]
  have sameRegister (bit : Bool) : first.shiftIn bit = second.shiftIn bit := by
    rw [shiftIn_eq_correction, shiftIn_eq_correction, moved, sameFeedback]
  simp only [Step.ofBit, sameFeedback, sameRegister]

/-- Nor does the passage of a byte. -/
theorem events_eq_of_value (first second : Register) (byteIndex : Nat) (byte : UInt8)
    (same : first.value = second.value) :
    (Passage.mk first byteIndex byte).events = (Passage.mk second byteIndex byte).events := by
  have steps : (Passage.mk first byteIndex byte).steps =
      (Passage.mk second byteIndex byte).steps := by
    apply List.map_congr_left
    intro position _
    exact ofBit_eq_of_value _ _ byteIndex byte position
      ((value_appendBits_eq_iff first second _).mpr same)
  have finish : (Passage.mk first byteIndex byte).finish =
      (Passage.mk second byteIndex byte).finish := push_eq_of_value first second byte same
  rw [Passage.events, Passage.events, steps, finish]

/-- Watching a message shows the same events, whatever the top bit was. Behind
the first byte the registers themselves are equal. -/
theorem shown_eq_of_value (first second : Register) (message : List UInt8)
    (same : first.value = second.value) : first.shown message = second.shown message := by
  cases message with
  | nil => rfl
  | cons byte rest =>
    have front := events_eq_of_value first second 0 byte same
    have left := push_eq_of_value first second byte same
    rw [shown, shown, passages, passages, passagesFrom, passagesFrom, List.flatMap_cons,
      List.flatMap_cons, front, left]

end Register

namespace Session

/-- The registers of two sessions have the same checksum bits, and their recorders
hold the same. -/
structure Alike (first second : Session) : Prop where
  /-- The checksum bits are the same on either side. -/
  value_eq : ∀ side, (first.register side).value = (second.register side).value
  /-- The same has been recorded. -/
  recorder_eq : first.recorder = second.recorder

/-- A run that goes into a register with the same checksum bits leaves the same in
a recorder. -/
theorem recorded_eq_of_value (first second : Register) (message : List UInt8)
    (recorder : Recorder) (watcher : Watcher) (same : first.value = second.value) :
    watcher.recorded { start := first, message } recorder =
      watcher.recorded { start := second, message } recorder := by
  have shown : recorder.record { start := first, message } =
      recorder.record { start := second, message } := by
    rw [Recorder.record, Recorder.record, Observer.watch_eq, Observer.watch_eq,
      Register.shown_eq_of_value first second message same]
  cases watcher with
  | recorder => exact shown
  | session => exact shown
  | nobody => rfl

/-- Every action takes two sessions that are alike to sessions that are alike. -/
theorem alike_act (first second : Session) (action : Action) (alike : first.Alike second) :
    (first.act action).Alike (second.act action) := by
  have updated (side : Side) (register other : Register) (same : register.value = other.value)
      (asked : Side) :
      (Function.update first.register side register asked).value =
        (Function.update second.register side other asked).value :=
    Side.related_update (fun register other : Register => register.value = other.value)
      alike.value_eq side same asked
  have fed (side : Side) (message : List UInt8) :
      ((first.register side).append message).value =
        ((second.register side).append message).value :=
    (Register.value_append_eq_iff _ _ message).mpr (alike.value_eq side)
  constructor
  · intro asked
    rw [register_act, register_act]
    cases action with
    | reset side => exact updated side _ _ rfl asked
    | append side message => exact updated side _ _ (fed side message) asked
    | push side byte => exact updated side _ _ (fed side [byte]) asked
    | watch side message watcher => exact updated side _ _ (fed side message) asked
    | copy side => exact updated side _ _ (alike.value_eq side.other) asked
    | recordBit step => exact alike.value_eq asked
    | recordByteEnd byteIndex register => exact alike.value_eq asked
    | clear => exact alike.value_eq asked
  · rw [recorder_act, recorder_act, alike.recorder_eq]
    cases action with
    | watch side message watcher =>
      exact recorded_eq_of_value _ _ message second.recorder watcher (alike.value_eq side)
    | _ => rfl

/-- So does every sequence of actions. -/
theorem alike_run (first second : Session) (actions : List Action) (alike : first.Alike second) :
    (first.run actions).Alike (second.run actions) := by
  induction actions generalizing first second with
  | nil => exact alike
  | cons action rest inductionHypothesis =>
    exact inductionHypothesis (first.act action) (second.act action)
      (alike_act first second action alike)

end Session

namespace Register

/-- Two registers, fed the same message, have the same framed checksum afterwards
exactly when they had the same checksum bits before, and if the message has any
bytes this is also when they end up equal. Registers with the same checksum bits
that are not equal differ in the top bit and nowhere else.

What the top bit was never shows later on: sessions that are alike stay alike
through all actions. -/
theorem top_bit_forgotten :
    (∀ (first second : Register) (message : List UInt8),
      ((first.append message).framed = (second.append message).framed ↔
        first.value = second.value) ∧
      (message ≠ [] →
        (first.append message = second.append message ↔ first.value = second.value))) ∧
    (∀ first second : Register,
      first.value = second.value ↔ first = second ∨ first ^^^ second = 0x80) ∧
    ∀ (first second : Session) (actions : List Action), first.Alike second →
      (first.run actions).Alike (second.run actions) := by
  refine ⟨?_, value_eq_iff, Session.alike_run⟩
  intro first second message
  constructor
  · rw [framed_eq_iff_value, value_append_eq_iff]
  · exact append_eq_iff_value first second message

/-- A byte makes two registers equal that differed in the top bit, but not two that
differed below it. A session whose right register has its top bit set is like a
new one, and stays so when that register is watched and copied. -/
theorem top_bit_forgotten_right_side :
    [0x48] ≠ ([] : List UInt8) ∧ append 0x35 [0x48] = append 0xB5 [0x48] ∧
      append 0x35 [0x48] ≠ append 0x36 [0x48] ∧
      Session.start.Alike { right := 0x80 } ∧
      (Session.start.run [.watch .right [0x48, 0xAA] .recorder, .copy .left]).Alike
        (({ right := 0x80 } : Session).run [.watch .right [0x48, 0xAA] .recorder, .copy .left]) := by
  obtain ⟨registers, -, sessions⟩ := top_bit_forgotten
  have fed : [0x48] ≠ ([] : List UInt8) := by decide
  have alike : Session.start.Alike { right := 0x80 } := by
    constructor
    · intro side
      cases side <;> rfl
    · rfl
  have together := (registers 0x35 0xB5 [0x48]).2 fed
  have apart := (registers 0x35 0x36 [0x48]).2 fed
  exact ⟨fed, together.mpr (by decide), fun same => absurd (apart.mp same) (by decide), alike,
    sessions _ _ _ alike⟩

end Register

end CardCrc
