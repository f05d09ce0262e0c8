import CardCrc.Proofs.Trace.Recording

/-!
# The listing of a message

The listing of a recorder that has watched a message has nine lines for each
byte: one for each of its steps and a separator. The line of a step shows the
register of the bit-serial algorithm after as many bits of the message as have
entered by then, and beside it the byte moved up past its bit.
-/

namespace CardCrc

/-- The bits of a message up to some bit of a byte are those of the bytes before
it and the first ones of its own. -/
theorem Message.take_bits (message : List UInt8) (index count : Nat) (byte : UInt8)
    (present : message[index]? = some byte) (inside : count ≤ 8) :
    (bits message).take (8 * index + count) =
      bits (message.take index) ++ (Register.inputBits byte).take count := by
  obtain ⟨within, rfl⟩ := List.getElem?_eq_some_iff.mp present
  have split : bits message =
      bits (message.take index) ++ (Register.inputBits message[index] ++
        bits (message.drop (index + 1))) := by
    rw [← bits_cons, List.getElem_cons_drop, ← bits_append, List.take_append_drop]
  -- The bytes in front are whole, so all of their bits are taken.
  have before : (bits (message.take index)).length = 8 * index := by
    rw [length_bits, List.length_take, Nat.min_eq_left (Nat.le_of_lt within)]
  have room : count ≤ (Register.inputBits message[index]).length := by
    rw [Register.length_inputBits]
    exact inside
  rw [split, ← before, List.take_length_add_append, List.take_append_of_le_length room]

namespace Passage

/-- The lines of a byte. -/
def lines (passage : Passage) : List String :=
  passage.steps.map Step.line ++ [Recorder.separator]

/-- There are nine of them. -/
@[simp] theorem length_lines (passage : Passage) : passage.lines.length = 9 := by
  simp [lines]

/-- The lines of the steps come first. -/
theorem getElem?_lines_step (passage : Passage) (position : Nat) (inside : position < 8) :
    passage.lines[position]? = some (passage.step position).line := by
  rw [lines, List.getElem?_append_left (by simpa using inside), List.getElem?_map,
    passage.getElem?_steps position inside]
  rfl

/-- The separator comes last. -/
theorem getElem?_lines_separator (passage : Passage) :
    passage.lines[8]? = some Recorder.separator := rfl

/-- The register once some bits of a byte have entered, behind the bytes before
it, is the one after so many bits of the message. -/
theorem after_eq_appendBits (register : Register) (message : List UInt8) (index count : Nat)
    (byte : UInt8) (present : message[index]? = some byte) (inside : count ≤ 8) :
    (Passage.mk (register.append (message.take index)) index byte).after count =
      register.appendBits ((Message.bits message).take (8 * index + count)) := by
  rw [after, Register.append_eq_appendBits, ← Register.appendBits_append,
    Message.take_bits message index count byte present inside]

/-- The line of a step shows the register after its bit and the byte moved up. -/
theorem line_step (passage : Passage) (position : Nat) (inside : position < 8) :
    (passage.step position).line =
      Numeral.decimal (passage.after (position + 1)).toNat ++ " " ++
        Numeral.decimal (passage.byte.toNat * 2 ^ (position + 1)) := by
  rw [Step.line, passage.step_register position inside]
  congr 2
  exact Step.shifted_toNat passage.byte position inside

end Passage

/-- A recorder lists the lines of the bytes that it holds. -/
theorem Recorder.Holds.lines_eq {recorder : Recorder} {passages : List Passage}
    (holds : recorder.Holds passages) : recorder.lines = passages.flatMap Passage.lines := by
  have each : (List.range passages.length).map recorder.linesOf = passages.map Passage.lines := by
    apply List.ext_getElem
    · simp
    · intro index _ inside
      rw [List.length_map] at inside
      have present := List.getElem?_eq_getElem inside
      simp [linesOf, Passage.lines, holds.stepsOf_eq, present]
  rw [lines, holds.size_byteEnds, List.flatMap_def, each, List.flatMap_def]

/-- A new recorder that watches a message holds its bytes. -/
theorem Recorder.holds_watch (register : Register) (message : List UInt8) :
    (observer.watch register message empty).2.Holds (register.passages message) := by
  have holds := ofRuns_holds [⟨register, message⟩]
  rw [List.flatMap_singleton] at holds
  exact holds

end CardCrc
