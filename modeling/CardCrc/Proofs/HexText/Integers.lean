import CardCrc.Proofs.HexText.Shapes
import CardCrc.Proofs.Register.Feeding
import CardCrc.Proofs.Text.Numerals

/-!
# Messages of integers

A message may be given as integers or as hex texts of integers. Two validators
look at them: one checks each number before it is fed to the register, the other
reads all texts before anything is fed. Both stop at the first number that is no
byte, and report the same number at the same place.

They agree because a number above the smallest word and within the largest one is
not brought back when its text is read, whatever the case of its digits, the zeros
in front of them and the marker.
-/

namespace CardCrc

/-! ## Integers -/

/-- A number is a byte if it has eight bits and no sign. -/
abbrev IsByte (value : Int) : Prop := 0 ≤ value ∧ value ≤ 255

namespace Register

/-- An integer that is a byte is fed as this byte. -/
theorem appendIntegers_cons (register : Register) (index : Nat) (value : Int) (rest : List Int)
    (byte : IsByte value) :
    register.appendIntegers index (value :: rest) =
      (register.push (UInt8.ofNat value.toNat)).appendIntegers (index + 1) rest := by
  rw [appendIntegers, byteAt, if_pos byte]
  rfl

/-- So are several integers. -/
theorem appendIntegers_of_bytes (register : Register) (index : Nat) (values : List Int)
    (bytes : ∀ value ∈ values, IsByte value) :
    register.appendIntegers index values =
      .ok (register.append (values.map fun value => UInt8.ofNat value.toNat)) := by
  induction values generalizing register index with
  | nil => rfl
  | cons value rest inductionHypothesis =>
    obtain ⟨here, later⟩ := List.forall_mem_cons.mp bytes
    rw [appendIntegers_cons register index value rest here, inductionHypothesis _ _ later,
      List.map_cons, append_cons]

/-- The first integer that is no byte is the fault, at its place. -/
theorem appendIntegers_of_no_byte (register : Register) (index : Nat) (before : List Int)
    (value : Int) (rest : List Int) (bytes : ∀ earlier ∈ before, IsByte earlier)
    (noByte : ¬ IsByte value) :
    register.appendIntegers index (before ++ value :: rest) =
      .error (.outOfRange (index + before.length) value 255) := by
  induction before generalizing register index with
  | nil =>
    rw [List.nil_append, appendIntegers, byteAt, if_neg noByte]
    rfl
  | cons earlier before inductionHypothesis =>
    obtain ⟨here, later⟩ := List.forall_mem_cons.mp bytes
    rw [List.cons_append, appendIntegers_cons register index earlier _ here,
      inductionHypothesis _ _ later, List.length_cons, Nat.add_right_comm, Nat.add_assoc]

end Register

/-- Integers that are not all bytes have a first one that is none. -/
theorem exists_first_no_byte (values : List Int) (noBytes : ∃ value ∈ values, ¬ IsByte value) :
    ∃ before value rest, values = before ++ value :: rest ∧
      (∀ earlier ∈ before, IsByte earlier) ∧ ¬ IsByte value := by
  obtain ⟨offender, member, noByte⟩ := noBytes
  have present : (values.find? fun value => decide (¬ IsByte value)).isSome :=
    List.find?_isSome.mpr ⟨offender, member, decide_eq_true noByte⟩
  obtain ⟨value, found⟩ := Option.isSome_iff_exists.mp present
  obtain ⟨first, before, rest, split, earlier⟩ := List.find?_eq_some_iff_append.mp found
  refine ⟨before, value, rest, split, ?_, of_decide_eq_true first⟩
  intro other inFront
  simpa using earlier other inFront

namespace HexText

open Numeral (StandsFor StandFor number)

/-! ## Integers as texts -/

/-- The text is a minus sign or none, a marker or none, and hex digits, and stands
for this integer. -/
def Writes (text : String) (value : Int) : Prop :=
  ∃ sign ∈ [[], ['-']], ∃ marker ∈ plainMarkers, ∃ digits worths, digits ≠ [] ∧
    StandFor digits worths ∧ text.toList = sign ++ (marker ++ digits) ∧
    value = if sign = ['-'] then -(number 16 worths : Int) else number 16 worths

/-- Every magnitude is written in digits. -/
theorem exists_digits (magnitude : Nat) :
    ∃ digits worths, digits ≠ [] ∧ StandFor digits worths ∧ number 16 worths = magnitude := by
  obtain ⟨worths, areDigits, worth⟩ :=
    Numeral.areDigits_toDigits 16 magnitude (by decide) (by decide)
  exact ⟨_, worths, Nat.toDigits_ne_nil, areDigits.imp fun _ _ => And.left, worth⟩

/-- Every integer is written in some text. -/
theorem exists_writes (value : Int) : ∃ text, Writes text value := by
  obtain ⟨digits, worths, present, stand, worth⟩ := exists_digits value.natAbs
  by_cases negative : value < 0
  · refine ⟨String.ofList ('-' :: digits), ['-'], by decide, [], by decide, digits, worths,
      present, stand, String.toList_ofList, ?_⟩
    rw [if_pos rfl, worth]
    omega
  · refine ⟨String.ofList digits, [], by decide, [], by decide, digits, worths, present, stand,
      String.toList_ofList, ?_⟩
    rw [if_neg (by decide), worth]
    omega

/-- A text of an integer is a hex integer that stands for it. -/
theorem Writes.denotes {text : String} {value : Int} (writes : Writes text value) :
    Denotes text.toList value := by
  have allSigns : ∀ sign ∈ [[], ['-']], sign ∈ signs := by decide
  have allMarkers : ∀ marker ∈ plainMarkers, marker ∈ markers := by decide
  obtain ⟨sign, known, marker, marks, digits, worths, present, stand, written, worth⟩ := writes
  exact ⟨sign, allSigns sign known, marker, allMarkers marker marks, digits, worths,
    Grouped.of_standFor present stand, written, worth⟩

/-- A text of an integer that is not brought back is checked as this integer. -/
theorem Writes.readByteAt_eq {text : String} {value : Int} (writes : Writes text value)
    (large : -2 ^ 63 < value) (small : value < 2 ^ 63) (index : Nat) :
    readByteAt index text = byteAt index value := by
  have denotes := writes.denotes
  have checked := readByteAt_of_denotes index _ _ denotes.trimmed_self value denotes
  rw [String.ofList_toList, saturated_eq_self value large small] at checked
  exact checked

/-- Texts of integers are read and fed as the integers are. -/
theorem readBytesFrom_of_writes (register : Register) (index : Nat) (texts : List String)
    (values : List Int) (written : List.Forall₂ Writes texts values)
    (words : ∀ value ∈ values, -2 ^ 63 < value ∧ value < 2 ^ 63) :
    (readBytesFrom index texts).map register.append = register.appendIntegers index values := by
  induction written generalizing register index with
  | nil => rfl
  | @cons text value texts values writes _ inductionHypothesis =>
    obtain ⟨⟨large, small⟩, later⟩ := List.forall_mem_cons.mp words
    rw [readBytesFrom, Register.appendIntegers, writes.readByteAt_eq large small]
    cases byteAt index value with
    | error fault => rfl
    | ok byte =>
      change (readBytesFrom (index + 1) texts >>= fun bytes => .ok (byte :: bytes)).map
        register.append = (register.push byte).appendIntegers (index + 1) values
      rw [← inductionHypothesis (register.push byte) (index + 1) later]
      cases readBytesFrom (index + 1) texts with
      | error fault => simp only [bind, Except.bind, Except.map]
      | ok bytes => simp only [bind, Except.bind, Except.map, Register.append_cons]

/-- The checksum of integers that are all bytes is the checksum of these bytes.
Otherwise the first integer that is no byte is the fault, at its place.

Every integer has texts. From whatever texts of integers above the smallest word
and within the largest one the bytes are read, their checksum is that of the
integers, or the fault is the same. -/
theorem integers_and_texts_agree :
    (∀ values, (∀ value ∈ values, IsByte value) →
      crc7OfIntegers values = .ok (crc7 (values.map fun value => UInt8.ofNat value.toNat))) ∧
    (∀ values, (∃ value ∈ values, ¬ IsByte value) →
      ∃ before value rest, values = before ++ value :: rest ∧
        (∀ earlier ∈ before, IsByte earlier) ∧ ¬ IsByte value ∧
        crc7OfIntegers values = .error (.outOfRange before.length value 255)) ∧
    (∀ value, ∃ text, Writes text value) ∧
    ∀ texts values, List.Forall₂ Writes texts values →
      (∀ value ∈ values, -2 ^ 63 < value ∧ value < 2 ^ 63) →
      (readBytes texts).map crc7 = crc7OfIntegers values := by
  refine ⟨?_, ?_, exists_writes, ?_⟩
  · intro values bytes
    rw [crc7OfIntegers, Register.appendIntegers_of_bytes _ 0 values bytes]
    rfl
  · intro values noBytes
    obtain ⟨before, value, rest, rfl, bytes, noByte⟩ := exists_first_no_byte values noBytes
    refine ⟨before, value, rest, rfl, bytes, noByte, ?_⟩
    rw [crc7OfIntegers, Register.appendIntegers_of_no_byte _ 0 before value rest bytes noByte,
      Nat.zero_add]
    rfl
  · intro texts values written words
    rw [crc7OfIntegers, ← readBytesFrom_of_writes Register.empty 0 texts values written words,
      readBytes]
    cases readBytesFrom 0 texts with
    | error fault => rfl
    | ok bytes => rfl

/-- Two bytes, and between others the largest word and a number below zero, as
integers and as texts. -/
theorem integers_and_texts_agree_largest_word :
    crc7OfIntegers [255, 0] = .ok (crc7 [255, 0]) ∧
      (∃ before value rest, [255, 0, 2 ^ 63 - 1, -16] = before ++ value :: rest ∧
        (∀ earlier ∈ before, IsByte earlier) ∧ ¬ IsByte value ∧
        crc7OfIntegers [255, 0, 2 ^ 63 - 1, -16] = .error (.outOfRange before.length value 255)) ∧
      List.Forall₂ Writes ["0X0fF", "-00", "7fffffffFFFFFFFF", "-0x10"]
        [255, 0, 2 ^ 63 - 1, -16] ∧
      (readBytes ["0X0fF", "-00", "7fffffffFFFFFFFF", "-0x10"]).map crc7 =
        crc7OfIntegers [255, 0, 2 ^ 63 - 1, -16] := by
  obtain ⟨accepted, refused, -, alike⟩ := integers_and_texts_agree
  have written : List.Forall₂ Writes ["0X0fF", "-00", "7fffffffFFFFFFFF", "-0x10"]
      [255, 0, 2 ^ 63 - 1, -16] := by
    refine .cons ?_ (.cons ?_ (.cons ?_ (.cons ?_ .nil)))
    · exact ⟨[], by decide, ['0', 'X'], by decide, ['0', 'f', 'F'], [0, 15, 15], by decide,
        by decide, by decide, by decide⟩
    · exact ⟨['-'], by decide, [], by decide, ['0', '0'], [0, 0], by decide, by decide,
        by decide, by decide⟩
    · exact ⟨[], by decide, [], by decide, _, 7 :: List.replicate 15 15, by decide, by decide,
        rfl, by decide⟩
    · exact ⟨['-'], by decide, ['0', 'x'], by decide, ['1', '0'], [1, 0], by decide, by decide,
        by decide, by decide⟩
  exact ⟨accepted [255, 0] (by decide), refused _ ⟨-16, by decide, by decide⟩, written,
    alike _ _ written (by decide)⟩

end HexText

end CardCrc
