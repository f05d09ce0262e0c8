import CardCrc.Fault
import CardCrc.Proofs.Text.Quotations

/-!
# What a message tells

The message of a fault begins with words that no other kind of fault has, and no such
beginning is the beginning of another one. Behind it come numbers, which end where a
digit can no longer follow, or the input, which is quoted. The reason of a malformed
text is not quoted, whatever it is made of, but it comes last, and the quotation in
front of it tells where it begins. So a message tells the fault with all that belongs
to it.

Nothing is used of the quotation but that it shows the characters one by one, so any
other way of doing so would serve as well.
-/

namespace CardCrc

open Numeral (decimal integer hexByte append_gap_inj notMem_decimal notMem_integer
  notMem_hexByte)

namespace Fault

/-- The message of a fault, with the input quoted in some way. -/
def messageQuoting (quote : List Char → List Char) : Fault → String
  | malformed input reason =>
    "Invalid hex byte " ++ String.ofList (quote input.toList) ++ ": " ++ reason
  | fault => fault.message

/-- The message of a fault has the input between double quotes. -/
theorem messageQuoting_quoted (fault : Fault) :
    fault.messageQuoting Text.quoted = fault.message := by
  cases fault <;> rfl

/-! ## The characters of a message -/

section Characters

variable (quote : List Char → List Char)

/-- The message of a malformed text: the quotation, and then the reason. -/
theorem toList_malformed (input reason : String) :
    ((malformed input reason).messageQuoting quote).toList = "Invalid hex byte ".toList ++
      (quote input.toList ++ (": ".toList ++ reason.toList)) := by
  change ("Invalid hex byte " ++ String.ofList (quote input.toList) ++ ": " ++ reason).toList = _
  simp only [String.toList_append, String.toList_ofList, List.append_assoc]

/-- The message of a number out of range: the number, its place and its limit. -/
theorem toList_outOfRange (index : Nat) (value limit : Int) :
    ((outOfRange index value limit).messageQuoting quote).toList =
      "Value ".toList ++ ((integer value).toList ++ (" at index ".toList ++
        ((decimal index).toList ++ (" is out of range (expected 0..=".toList ++
          ((integer limit).toList ++ ")".toList))))) := by
  change ("Value " ++ integer value ++ " at index " ++ decimal index ++
    " is out of range (expected 0..=" ++ integer limit ++ ")").toList = _
  simp only [String.toList_append, List.append_assoc]

/-- The message of a frame of the wrong length: the right length and the wrong one. -/
theorem toList_frameLength (expected found : Nat) :
    ((frameLength expected found).messageQuoting quote).toList =
      "Invalid frame length: expected ".toList ++ ((decimal expected).toList ++
        (" bytes, found ".toList ++ (decimal found).toList)) := by
  change ("Invalid frame length: expected " ++ decimal expected ++ " bytes, found " ++
    decimal found).toList = _
  simp only [String.toList_append, List.append_assoc]

/-- The message of wrong start bits: the byte that they should begin. -/
theorem toList_startBits (byte : UInt8) :
    ((startBits byte).messageQuoting quote).toList =
      "Invalid start bits in command byte ".toList ++ ("0x".toList ++ (hexByte byte).toList) := by
  change ("Invalid start bits in command byte " ++ ("0x" ++ hexByte byte)).toList = _
  simp only [String.toList_append]

/-- The message of a wrong checksum: the one received and the one computed. -/
theorem toList_checksumMismatch (received computed : UInt8) :
    ((checksumMismatch received computed).messageQuoting quote).toList =
      "CRC mismatch: expected ".toList ++ ("0x".toList ++ ((hexByte received).toList ++
        (", computed ".toList ++ ("0x".toList ++ (hexByte computed).toList)))) := by
  change ("CRC mismatch: expected " ++ ("0x" ++ hexByte received) ++ ", computed " ++
    ("0x" ++ hexByte computed)).toList = _
  simp only [String.toList_append, List.append_assoc]

end Characters

/-! ## Kinds of faults -/

/-- The words that the messages of a kind of faults begin with. -/
def opening : Fault → String
  | malformed .. => "Invalid hex byte "
  | outOfRange .. => "Value "
  | frameLength .. => "Invalid frame length: expected "
  | startBits .. => "Invalid start bits in command byte "
  | checksumMismatch .. => "CRC mismatch: expected "

/-- All of these words. -/
def openings : List String :=
  ["Invalid hex byte ", "Value ", "Invalid frame length: expected ",
    "Invalid start bits in command byte ", "CRC mismatch: expected "]

/-- There are no others. -/
theorem opening_mem_openings (fault : Fault) : fault.opening ∈ openings := by
  cases fault <;> simp [opening, openings]

section Kinds

variable (quote : List Char → List Char)

/-- A message begins with the words of its kind. -/
theorem opening_prefix (fault : Fault) :
    fault.opening.toList <+: (fault.messageQuoting quote).toList := by
  cases fault with
  | malformed => exact ⟨_, (toList_malformed quote _ _).symm⟩
  | outOfRange => exact ⟨_, (toList_outOfRange quote _ _ _).symm⟩
  | frameLength => exact ⟨_, (toList_frameLength quote _ _).symm⟩
  | startBits => exact ⟨_, (toList_startBits quote _).symm⟩
  | checksumMismatch => exact ⟨_, (toList_checksumMismatch quote _ _).symm⟩

/-- Faults with the same message are of the same kind. -/
theorem opening_eq_of_message_eq (first second : Fault)
    (same : first.messageQuoting quote = second.messageQuoting quote) :
    first.opening = second.opening := by
  have apart : ∀ words ∈ openings, ∀ others ∈ openings,
      words.toList <+: others.toList → words = others := by decide
  have begins := first.opening_prefix quote
  rw [same] at begins
  rcases List.prefix_or_prefix_of_prefix begins (second.opening_prefix quote) with within | within
  · exact apart _ first.opening_mem_openings _ second.opening_mem_openings within
  · exact (apart _ second.opening_mem_openings _ first.opening_mem_openings within).symm

end Kinds

/-! ## Faults of one kind -/

section SameKind

variable {quote : List Char → List Char}

/-- The quotation tells the input, and what follows it is the reason. -/
theorem malformed_of_message_eq (quotes : ∀ text, Text.Quotes text (quote text))
    {input other reason otherReason : String}
    (same : (malformed input reason).messageQuoting quote =
      (malformed other otherReason).messageQuoting quote) :
    input = other ∧ reason = otherReason := by
  have characters := congrArg String.toList same
  rw [toList_malformed, toList_malformed] at characters
  obtain ⟨inputs, behind⟩ :=
    (quotes _).append_inj (quotes _) (List.append_cancel_left characters)
  exact ⟨String.toList_inj.mp inputs, String.toList_inj.mp (List.append_cancel_left behind)⟩

/-- The number ends at a space, and so does its place. -/
theorem outOfRange_of_message_eq {index otherIndex : Nat} {value other limit otherLimit : Int}
    (same : (outOfRange index value limit).messageQuoting quote =
      (outOfRange otherIndex other otherLimit).messageQuoting quote) :
    index = otherIndex ∧ value = other ∧ limit = otherLimit := by
  have spaceless (value : Int) : ' ' ∉ (integer value).toList :=
    notMem_integer value ' ' (by decide) (by decide)
  have spacelessToo (index : Nat) : ' ' ∉ (decimal index).toList :=
    notMem_decimal index ' ' (by decide)
  have characters := congrArg String.toList same
  rw [toList_outOfRange, toList_outOfRange] at characters
  obtain ⟨values, behindValue⟩ := append_gap_inj (by decide) (spaceless value) (spaceless other)
    (List.append_cancel_left characters)
  obtain ⟨indices, behindIndex⟩ :=
    append_gap_inj (by decide) (spacelessToo index) (spacelessToo otherIndex) behindValue
  have limits := List.append_cancel_right behindIndex
  exact ⟨Numeral.decimal_injective (String.toList_inj.mp indices),
    Numeral.integer_injective (String.toList_inj.mp values),
    Numeral.integer_injective (String.toList_inj.mp limits)⟩

/-- The right length ends at a space, and the wrong one ends the message. -/
theorem frameLength_of_message_eq {expected otherExpected found otherFound : Nat}
    (same : (frameLength expected found).messageQuoting quote =
      (frameLength otherExpected otherFound).messageQuoting quote) :
    expected = otherExpected ∧ found = otherFound := by
  have spaceless (length : Nat) : ' ' ∉ (decimal length).toList :=
    notMem_decimal length ' ' (by decide)
  have characters := congrArg String.toList same
  rw [toList_frameLength, toList_frameLength] at characters
  obtain ⟨lengths, behind⟩ := append_gap_inj (by decide) (spaceless expected)
    (spaceless otherExpected) (List.append_cancel_left characters)
  exact ⟨Numeral.decimal_injective (String.toList_inj.mp lengths),
    Numeral.decimal_injective (String.toList_inj.mp behind)⟩

/-- The byte ends the message. -/
theorem startBits_of_message_eq {byte other : UInt8}
    (same : (startBits byte).messageQuoting quote = (startBits other).messageQuoting quote) :
    byte = other := by
  have characters := congrArg String.toList same
  rw [toList_startBits, toList_startBits] at characters
  have digits := List.append_cancel_left (List.append_cancel_left characters)
  exact Numeral.hexByte_injective (String.toList_inj.mp digits)

/-- The received checksum ends at a comma, and the computed one ends the message. -/
theorem checksumMismatch_of_message_eq {received other computed otherComputed : UInt8}
    (same : (checksumMismatch received computed).messageQuoting quote =
      (checksumMismatch other otherComputed).messageQuoting quote) :
    received = other ∧ computed = otherComputed := by
  have commaless (byte : UInt8) : ',' ∉ (hexByte byte).toList :=
    notMem_hexByte byte ',' (by decide)
  have characters := congrArg String.toList same
  rw [toList_checksumMismatch, toList_checksumMismatch] at characters
  obtain ⟨digits, behind⟩ := append_gap_inj (by decide) (commaless received) (commaless other)
    (List.append_cancel_left (List.append_cancel_left characters))
  exact ⟨Numeral.hexByte_injective (String.toList_inj.mp digits),
    Numeral.hexByte_injective (String.toList_inj.mp (List.append_cancel_left behind))⟩

end SameKind

/-! ## All faults -/

/-- Faults with the same message are the same. -/
theorem eq_of_messageQuoting_eq {quote : List Char → List Char}
    (quotes : ∀ text, Text.Quotes text (quote text)) (first second : Fault)
    (same : first.messageQuoting quote = second.messageQuoting quote) : first = second := by
  have kind := opening_eq_of_message_eq quote first second same
  cases first with
  | malformed input reason =>
    cases second with
    | malformed other otherReason =>
      obtain ⟨rfl, rfl⟩ := malformed_of_message_eq quotes same
      rfl
    | _ => simp [opening] at kind
  | outOfRange index value limit =>
    cases second with
    | outOfRange otherIndex other otherLimit =>
      obtain ⟨rfl, rfl, rfl⟩ := outOfRange_of_message_eq same
      rfl
    | _ => simp [opening] at kind
  | frameLength expected found =>
    cases second with
    | frameLength otherExpected otherFound =>
      obtain ⟨rfl, rfl⟩ := frameLength_of_message_eq same
      rfl
    | _ => simp [opening] at kind
  | startBits byte =>
    cases second with
    | startBits other =>
      obtain rfl := startBits_of_message_eq same
      rfl
    | _ => simp [opening] at kind
  | checksumMismatch received computed =>
    cases second with
    | checksumMismatch other otherComputed =>
      obtain ⟨rfl, rfl⟩ := checksumMismatch_of_message_eq same
      rfl
    | _ => simp [opening] at kind

/-- A message is of one fault only. The same would hold if the input were quoted in
any other way that shows its characters one by one. -/
theorem messages_unambiguous :
    (∀ first second : Fault, first.message = second.message ↔ first = second) ∧
    ∀ quote : List Char → List Char, (∀ text, Text.Quotes text (quote text)) →
      ∀ first second : Fault,
        first.messageQuoting quote = second.messageQuoting quote ↔ first = second := by
  have whatever (quote : List Char → List Char) (quotes : ∀ text, Text.Quotes text (quote text))
      (first second : Fault) :
      first.messageQuoting quote = second.messageQuoting quote ↔ first = second :=
    ⟨eq_of_messageQuoting_eq quotes first second, fun same => same ▸ rfl⟩
  refine ⟨?_, whatever⟩
  intro first second
  rw [← messageQuoting_quoted, ← messageQuoting_quoted]
  exact whatever Text.quoted Text.quotes_quoted first second

/-- The mark in these inputs and reasons stands where it would end the quotation of the
other input, if it were not escaped. A quotation may also write every character by its
code point. -/
theorem messages_unambiguous_shifted_mark :
    (malformed "a\": b" "c").message ≠ (malformed "a" "b\": c").message ∧
      ∃ quote : List Char → List Char, (∀ text, Text.Quotes text (quote text)) ∧
        quote ['a'] = "\"\\u\x7b61\x7d\"".toList ∧
        (malformed "a\": b" "c").messageQuoting quote ≠
          (malformed "a" "b\": c").messageQuoting quote := by
  obtain ⟨plain, whatever⟩ := messages_unambiguous
  let quote (text : List Char) : List Char :=
    '"' :: (text.flatMap Text.codePointEscape ++ ['"'])
  have quotes : ∀ text, Text.Quotes text (quote text) :=
    fun text => Text.quotes_flatMap text Text.codePointEscape Text.Shows.code
  have different : malformed "a\": b" "c" ≠ malformed "a" "b\": c" := by decide
  exact ⟨fun same => different ((plain _ _).mp same), quote, quotes, by decide,
    fun same => different ((whatever quote quotes _ _).mp same)⟩

end Fault

end CardCrc
