import CardCrc.HexText.Byte
import CardCrc.Proofs.HexText.Grammar

/-!
# Reading bytes

A text between blanks is read as a byte when it is a hex integer that stands for
a byte, and the byte read is the number it stands for. A hex integer that stands
for anything else is out of range, however long it is: what reading reports of a
number beyond the largest magnitude is still no byte. Every other text is
malformed and named with its blanks.

A list of texts is read when each of them is. Otherwise the first one refused is
the fault; only a number out of range is told where it stands.
-/

namespace CardCrc.HexText

universe u v

/-- A number above the smallest signed word of 64 bits and within the largest one
is not brought back. -/
theorem saturated_eq_self (value : Int) (large : -2 ^ 63 < value) (small : value < 2 ^ 63) :
    saturated value = value := by
  simp only [saturated, largestMagnitude]
  omega

/-- A number that is a byte is not brought back. -/
theorem saturated_of_byte (value : Int) (byte : 0 ≤ value ∧ value ≤ 255) :
    saturated value = value :=
  saturated_eq_self value (by omega) (by omega)

/-- A number that is no byte is not brought back to one. -/
theorem saturated_of_no_byte (value : Int) (noByte : ¬ (0 ≤ value ∧ value ≤ 255)) :
    ¬ (0 ≤ saturated value ∧ saturated value ≤ 255) := by
  simp only [saturated, largestMagnitude]
  omega

/-- A hex integer is checked to be a byte. -/
theorem readByte_of_denotes (text : String) (core : List Char)
    (trimmed : Text.Trimmed text.toList core) (value : Int) (denotes : Denotes core value) :
    readByte text = byteAt 0 (saturated value) := by
  simp only [readByte, readInteger_of_denotes text.toList core trimmed value denotes]

/-- A hex integer that stands for a byte is read as this byte. -/
theorem readByte_of_byte (text : String) (core : List Char)
    (trimmed : Text.Trimmed text.toList core) (value : Int) (denotes : Denotes core value)
    (byte : 0 ≤ value ∧ value ≤ 255) :
    ∃ read, readByte text = .ok read ∧ (read.toNat : Int) = value := by
  refine ⟨UInt8.ofNat value.toNat, ?_, ?_⟩
  · rw [readByte_of_denotes text core trimmed value denotes, saturated_of_byte value byte, byteAt,
      if_pos byte]
  · rw [UInt8.toNat_ofNat_of_lt' (by change value.toNat < 256; omega)]
    omega

/-- A hex integer that stands for anything else is out of range. -/
theorem readByte_of_no_byte (text : String) (core : List Char)
    (trimmed : Text.Trimmed text.toList core) (value : Int) (denotes : Denotes core value)
    (noByte : ¬ (0 ≤ value ∧ value ≤ 255)) :
    readByte text = .error (.outOfRange 0 (saturated value) 255) := by
  rw [readByte_of_denotes text core trimmed value denotes, byteAt,
    if_neg (saturated_of_no_byte value noByte), Fault.notByte]

/-- A text that is no hex integer is malformed, and the fault names the whole
text. -/
theorem readByte_of_not_denotes (text : String) (core : List Char)
    (trimmed : Text.Trimmed text.toList core) (noInteger : ∀ value, ¬ Denotes core value) :
    ∃ reason, readByte text = .error (.malformed text reason) := by
  obtain ⟨complaint, refused⟩ := readInteger_of_not_denotes text.toList core trimmed noInteger
  exact ⟨complaint.wording, by simp only [readByte, refused, Complaint.about]⟩

/-- A text that is not read as a byte is out of range or malformed. -/
theorem readByte_error_cases (text : String) (cause : Fault)
    (refused : readByte text = .error cause) :
    (∃ reported, cause = .outOfRange 0 reported 255) ∨
      ∃ reason, cause = .malformed text reason := by
  have trimmed := Text.trimmed_trim text.toList
  by_cases integer : ∃ value, Denotes (Text.trim text.toList) value
  · obtain ⟨value, denotes⟩ := integer
    by_cases byte : 0 ≤ value ∧ value ≤ 255
    · obtain ⟨read, accepted, -⟩ := readByte_of_byte text _ trimmed value denotes byte
      exact nomatch accepted.symm.trans refused
    · have outside := readByte_of_no_byte text _ trimmed value denotes byte
      exact Or.inl ⟨_, Except.error.inj (refused.symm.trans outside)⟩
  · obtain ⟨reason, malformed⟩ := readByte_of_not_denotes text _ trimmed (not_exists.mp integer)
    exact Or.inr ⟨reason, Except.error.inj (refused.symm.trans malformed)⟩

/-- Texts and bytes, each text being read as the byte. -/
abbrev ReadAs : List String → List UInt8 → Prop :=
  List.Forall₂ fun text byte => readByte text = .ok byte

/-- A byte that stands at a position is read as it would be alone. -/
theorem readByteAt_of_ok (index : Nat) (text : String) (byte : UInt8)
    (accepted : readByte text = .ok byte) : readByteAt index text = .ok byte := by
  rw [readByteAt, accepted]
  rfl

/-- A fault of a text is placed at its position. -/
theorem readByteAt_of_error (index : Nat) (text : String) (cause : Fault)
    (refused : readByte text = .error cause) :
    readByteAt index text = .error (cause.atIndex index) := by
  rw [readByteAt, refused]
  rfl

/-- A byte that is read at a position is read alone. -/
theorem readByte_of_readByteAt (index : Nat) (text : String) (byte : UInt8)
    (accepted : readByteAt index text = .ok byte) : readByte text = .ok byte := by
  cases outcome : readByte text with
  | ok read => exact (readByteAt_of_ok index text read outcome).symm.trans accepted
  | error cause => exact nomatch (readByteAt_of_error index text cause outcome).symm.trans accepted

/-- Texts that are all read give their bytes in order. -/
theorem readBytesFrom_of_readAs (index : Nat) (texts : List String) (bytes : List UInt8)
    (readAs : ReadAs texts bytes) : readBytesFrom index texts = .ok bytes := by
  induction readAs generalizing index with
  | nil => rfl
  | cons accepted _ inductionHypothesis =>
    rw [readBytesFrom, readByteAt_of_ok index _ _ accepted, inductionHypothesis]
    rfl

/-- The first text that is refused is the fault, at its position. -/
theorem readBytesFrom_of_refused (index : Nat) (accepted : List String) (bytes : List UInt8)
    (readAs : ReadAs accepted bytes) (text : String) (rest : List String) (cause : Fault)
    (refused : readByte text = .error cause) :
    readBytesFrom index (accepted ++ text :: rest) =
      .error (cause.atIndex (index + accepted.length)) := by
  induction readAs generalizing index with
  | nil =>
    rw [List.nil_append, readBytesFrom, readByteAt_of_error index text cause refused]
    rfl
  | @cons first byte others bytes read _ inductionHypothesis =>
    rw [List.cons_append, readBytesFrom, readByteAt_of_ok index first byte read,
      show index + (first :: others).length = index + 1 + others.length by
        rw [List.length_cons]; omega]
    change (readBytesFrom (index + 1) (others ++ text :: rest) >>= _) = _
    rw [inductionHypothesis]
    rfl

/-- Items are related to results one by one, or a first item is related to none. -/
theorem forall₂_or_first {α : Type u} {β : Type v} (related : α → β → Prop) (items : List α) :
    (∃ results, List.Forall₂ related items results) ∨
      ∃ before results item rest, items = before ++ item :: rest ∧
        List.Forall₂ related before results ∧ ∀ result, ¬ related item result := by
  induction items with
  | nil => exact Or.inl ⟨[], List.Forall₂.nil⟩
  | cons first items inductionHypothesis =>
    by_cases found : ∃ result, related first result
    · obtain ⟨result, holds⟩ := found
      rcases inductionHypothesis with ⟨results, all⟩ |
        ⟨before, results, item, rest, rfl, all, none⟩
      · exact Or.inl ⟨result :: results, List.Forall₂.cons holds all⟩
      · exact Or.inr ⟨first :: before, result :: results, item, rest, rfl,
          List.Forall₂.cons holds all, none⟩
    · exact Or.inr ⟨[], [], first, items, rfl, List.Forall₂.nil, not_exists.mp found⟩

/-- Every list of texts is read whole or has a first text that is refused. -/
theorem readAs_or_refused (texts : List String) :
    (∃ bytes, ReadAs texts bytes) ∨
      ∃ accepted bytes text rest cause, texts = accepted ++ text :: rest ∧
        ReadAs accepted bytes ∧ readByte text = .error cause := by
  rcases forall₂_or_first (fun text byte => readByte text = .ok byte) texts with whole |
    ⟨accepted, bytes, text, rest, split, readAs, unread⟩
  · exact Or.inl whole
  · cases outcome : readByte text with
    | error cause => exact Or.inr ⟨accepted, bytes, text, rest, cause, split, readAs, outcome⟩
    | ok byte => exact absurd outcome (unread byte)

/-- Texts are read exactly when each of them is, and then as their bytes in
order. -/
theorem readBytes_eq_ok_iff (texts : List String) (bytes : List UInt8) :
    readBytes texts = .ok bytes ↔ ReadAs texts bytes := by
  constructor
  · intro accepted
    rcases readAs_or_refused texts with ⟨read, readAs⟩ |
      ⟨before, read, text, rest, cause, rfl, readAs, refused⟩
    · have outcome := readBytesFrom_of_readAs 0 texts read readAs
      rw [← Except.ok.inj (outcome.symm.trans accepted)]
      exact readAs
    · have outcome := readBytesFrom_of_refused 0 before read readAs text rest cause refused
      exact nomatch outcome.symm.trans accepted
  · exact readBytesFrom_of_readAs 0 texts bytes

/-- Otherwise the fault is that of the first text refused, placed where it
stands if it is a number out of range and unchanged if the text is malformed. -/
theorem readBytes_eq_error_iff (texts : List String) (fault : Fault) :
    readBytes texts = .error fault ↔
      ∃ accepted bytes text rest, texts = accepted ++ text :: rest ∧ ReadAs accepted bytes ∧
        ((∃ reported, readByte text = .error (.outOfRange 0 reported 255) ∧
            fault = .outOfRange accepted.length reported 255) ∨
          ∃ reason, readByte text = .error (.malformed text reason) ∧
            fault = .malformed text reason) := by
  constructor
  · intro failed
    rcases readAs_or_refused texts with ⟨read, readAs⟩ |
      ⟨accepted, bytes, text, rest, cause, rfl, readAs, refused⟩
    · exact nomatch (readBytesFrom_of_readAs 0 texts read readAs).symm.trans failed
    · have outcome := readBytesFrom_of_refused 0 accepted bytes readAs text rest cause refused
      have same : fault = cause.atIndex accepted.length := by
        rw [Nat.zero_add] at outcome
        exact Except.error.inj (failed.symm.trans outcome)
      refine ⟨accepted, bytes, text, rest, rfl, readAs, ?_⟩
      rcases readByte_error_cases text cause refused with ⟨reported, rfl⟩ | ⟨reason, rfl⟩
      · exact Or.inl ⟨reported, refused, same⟩
      · exact Or.inr ⟨reason, refused, same⟩
  · rintro ⟨accepted, bytes, text, rest, rfl, readAs, ⟨reported, refused, rfl⟩ |
      ⟨reason, refused, rfl⟩⟩
    · have outcome := readBytesFrom_of_refused 0 accepted bytes readAs text rest _ refused
      rw [Nat.zero_add] at outcome
      exact outcome
    · exact readBytesFrom_of_refused 0 accepted bytes readAs text rest _ refused

/-- Every text has a core between blanks. If the core is a hex integer that
stands for a byte, the text is read as the byte of this number. If it stands for
any other number, the number is out of range. If the core is no hex integer, the
text is malformed, and the fault names it whole.

Several texts are read exactly when each of them is, as their bytes in order.
Otherwise the fault is that of the first text refused: a number out of range is
placed where its text stands, and a malformed text is named as it is alone. -/
theorem byte_reading_exact :
    (∀ text : String, ∃ core, Text.Trimmed text.toList core) ∧
    (∀ (text : String) (core : List Char), Text.Trimmed text.toList core →
      (∀ value, Denotes core value → 0 ≤ value ∧ value ≤ 255 →
        ∃ byte, readByte text = .ok byte ∧ (byte.toNat : Int) = value) ∧
      (∀ value, Denotes core value → ¬ (0 ≤ value ∧ value ≤ 255) →
        ∃ reported, readByte text = .error (.outOfRange 0 reported 255)) ∧
      ((∀ value, ¬ Denotes core value) →
        ∃ reason, readByte text = .error (.malformed text reason))) ∧
    (∀ texts bytes, readBytes texts = .ok bytes ↔
      List.Forall₂ (fun text byte => readByte text = .ok byte) texts bytes) ∧
    ∀ texts fault, readBytes texts = .error fault ↔
      ∃ accepted bytes text rest, texts = accepted ++ text :: rest ∧
        List.Forall₂ (fun text byte => readByte text = .ok byte) accepted bytes ∧
        ((∃ reported, readByte text = .error (.outOfRange 0 reported 255) ∧
            fault = .outOfRange accepted.length reported 255) ∨
          ∃ reason, readByte text = .error (.malformed text reason) ∧
            fault = .malformed text reason) := by
  refine ⟨?_, ?_, readBytes_eq_ok_iff, readBytes_eq_error_iff⟩
  · intro text
    exact ⟨_, Text.trimmed_trim text.toList⟩
  · intro text core trimmed
    refine ⟨readByte_of_byte text core trimmed, ?_, readByte_of_not_denotes text core trimmed⟩
    intro value denotes noByte
    exact ⟨_, readByte_of_no_byte text core trimmed value denotes noByte⟩

/-- Between blanks, with a separator behind the marker and one between its
groups, 255 is read. Below zero nothing is a byte. A separator that no marker
stands before is malformed. -/
theorem byte_reading_exact_neighbours :
    Text.Trimmed " 0x_0f_F\n".toList "0x_0f_F".toList ∧ Denotes "0x_0f_F".toList 255 ∧
      (∃ byte, readByte " 0x_0f_F\n" = .ok byte ∧ (byte.toNat : Int) = 255) ∧
      Denotes "-1".toList (-1) ∧ (∃ reported, readByte "-1" = .error (.outOfRange 0 reported 255)) ∧
      (∀ value, ¬ Denotes "_ff".toList value) ∧
      ∃ reason, readByte "_ff" = .error (.malformed "_ff" reason) := by
  have between : Text.Trimmed " 0x_0f_F\n".toList "0x_0f_F".toList := by
    have core : Text.trim " 0x_0f_F\n".toList = "0x_0f_F".toList := by decide
    exact core ▸ Text.trimmed_trim _
  have negative : Text.Trimmed "-1".toList "-1".toList := Text.trimmed_trim "-1".toList
  have separated : Text.Trimmed "_ff".toList "_ff".toList := Text.trimmed_trim "_ff".toList
  have largest : Denotes "0x_0f_F".toList 255 :=
    ⟨[], by decide, ['0', 'x', '_'], by decide, ['0', 'f', '_', 'F'], [0, 15, 15],
      ⟨[['0', 'f'], ['F']], by decide, by decide,
        .cons (by decide) (.cons (by decide) (.cons (by decide) .nil)), by decide⟩,
      by decide, by decide⟩
  have belowZero : Denotes "-1".toList (-1) :=
    ⟨['-'], by decide, [], by decide, ['1'], [1],
      ⟨[['1']], by decide, by decide, .cons (by decide) .nil, by decide⟩, by decide, by decide⟩
  have noInteger : ∀ value, ¬ Denotes "_ff".toList value := by
    intro value denotes
    have checked := readByte_of_denotes "_ff" _ separated value denotes
    have malformed : readByte "_ff" = .error (.malformed "_ff" "misplaced digit separator") := by
      decide
    rw [malformed, byteAt] at checked
    split at checked
    case isTrue => exact nomatch checked
    case isFalse => exact nomatch checked
  have reading := byte_reading_exact.2.1
  exact ⟨between, largest, (reading _ _ between).1 255 largest (by decide), belowZero,
    (reading _ _ negative).2.1 (-1) belowZero (by decide), noInteger,
    (reading _ _ separated).2.2 noInteger⟩

end CardCrc.HexText
