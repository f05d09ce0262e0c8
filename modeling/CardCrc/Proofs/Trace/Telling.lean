import CardCrc.Proofs.Session.Forgetting
import CardCrc.Proofs.Text.Numerals
import CardCrc.Proofs.Trace.Listing

/-!
# What a listing tells

The first line of a byte shows the register after the first bit and the byte moved
up by one place. Nothing of the byte is lost by moving it up, so the line tells the
byte and therefore the bit. With the bit known, the step can be undone as far as the
low seven bits of the register before it. The top bit was moved out by the step and
leaves no mark on this line or on any later one.

A listing thus tells the whole message and, if there is a byte in it, the checksum
bits of the register at the start. It tells nothing else: runs that have these in
common are listed alike.
-/

namespace CardCrc

namespace Step

/-- The line of a step tells the register and the moved byte, and nothing else. -/
theorem line_eq_iff (step other : Step) :
    step.line = other.line ↔ step.register = other.register ∧ step.shifted = other.shifted := by
  constructor
  · intro same
    have characters := congrArg String.toList same
    simp only [line, String.toList_append, List.append_assoc] at characters
    have spaceless (number : Nat) : ' ' ∉ (Numeral.decimal number).toList :=
      Numeral.notMem_decimal number ' ' (by decide)
    obtain ⟨register, shifted⟩ := Numeral.append_gap_inj (by decide) (spaceless _) (spaceless _)
      characters
    have registers := Numeral.decimal_injective (String.toList_inj.mp register)
    have moved := Numeral.decimal_injective (String.toList_inj.mp shifted)
    exact ⟨UInt8.toNat_inj.mp registers, UInt16.toNat_inj.mp moved⟩
  · rintro ⟨registers, moved⟩
    rw [line, line, registers, moved]

end Step

namespace Register

/-- The same bit neither brings different checksum bits together nor takes equal
ones apart. -/
theorem value_shiftIn_eq_iff (first second : Register) (bit : Bool) :
    (first.shiftIn bit).value = (second.shiftIn bit).value ↔ first.value = second.value :=
  value_appendBits_eq_iff first second [bit]

end Register

namespace Passage

/-- The lines of a byte tell the byte and the checksum bits of the register that it
met. The first of them is enough for both. -/
theorem eq_of_lines_eq (passage other : Passage) (same : passage.lines = other.lines) :
    passage.byte = other.byte ∧ passage.start.value = other.start.value := by
  have first : (passage.step 0).line = (other.step 0).line := by
    apply Option.some.inj
    rw [← passage.getElem?_lines_step 0 (by decide), same, other.getElem?_lines_step 0 (by decide)]
  obtain ⟨registers, moved⟩ := (Step.line_eq_iff _ _).mp first
  have doubled : passage.byte.toNat * 2 = other.byte.toNat * 2 := by
    have numbers := congrArg UInt16.toNat moved
    simp only [step, Step.ofBit, Step.shifted_toNat _ 0 (by decide)] at numbers
    exact numbers
  have byte : passage.byte = other.byte := UInt8.toNat_inj.mp (by omega)
  refine ⟨byte, ?_⟩
  have after : passage.start.shiftIn (Register.inputBit passage.byte 0) =
      other.start.shiftIn (Register.inputBit other.byte 0) := registers
  rw [byte] at after
  exact (Register.value_shiftIn_eq_iff _ _ _).mp (congrArg Register.value after)

end Passage

namespace Register

/-- The lines of some bytes tell all of them, and the checksum bits of the register
that the first one met.

The induction is on one of the messages. Every byte has nine lines, so the lines of
the first byte are the same in both listings, and so are those of the bytes behind
it. -/
theorem eq_of_flatMap_lines_eq (first second : Register) (byteIndex otherIndex : Nat)
    (message other : List UInt8)
    (same : (first.passagesFrom byteIndex message).flatMap Passage.lines =
      (second.passagesFrom otherIndex other).flatMap Passage.lines) :
    message = other ∧ (message = [] ∨ first.value = second.value) := by
  induction message generalizing first second byteIndex otherIndex other with
  | nil =>
    cases other with
    | nil => exact ⟨rfl, Or.inl rfl⟩
    | cons byte other => exact nomatch same
  | cons byte message inductionHypothesis =>
    cases other with
    | nil => exact nomatch same
    | cons otherByte other =>
      rw [passagesFrom, passagesFrom, List.flatMap_cons, List.flatMap_cons] at same
      obtain ⟨front, behind⟩ := List.append_inj same (by simp only [Passage.length_lines])
      obtain ⟨bytes, values⟩ := Passage.eq_of_lines_eq _ _ front
      obtain ⟨messages, -⟩ := inductionHypothesis _ _ _ _ _ behind
      exact ⟨congrArg₂ List.cons bytes messages, Or.inr values⟩

end Register

namespace Recorder

/-- Two messages that new recorders have watched are listed alike exactly when they
are the same message and, unless it is empty, the registers at the start have the
same checksum bits. -/
theorem listed_alike_iff (first second : Register) (message other : List UInt8) :
    (observer.watch first message empty).2.lines =
        (observer.watch second other empty).2.lines ↔
      message = other ∧ (message = [] ∨ first.value = second.value) := by
  constructor
  · intro same
    rw [(holds_watch first message).lines_eq, (holds_watch second other).lines_eq] at same
    exact Register.eq_of_flatMap_lines_eq first second 0 0 message other same
  · rintro ⟨rfl, rfl | values⟩
    · rfl
    · rw [Observer.watch_eq, Observer.watch_eq,
        Register.shown_eq_of_value first second message values]

/-- A register with its top bit set lists a byte as the register without it does, and
another bit below the top is seen at once. -/
example :
    (observer.watch 0x80 [0x48] empty).2.lines = (observer.watch 0 [0x48] empty).2.lines ∧
      (observer.watch 0x40 [0x48] empty).2.lines ≠ (observer.watch 0 [0x48] empty).2.lines := by
  decide

end Recorder

end CardCrc
