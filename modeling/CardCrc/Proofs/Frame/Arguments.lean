import CardCrc.Frame.Request
import CardCrc.Proofs.HexText.Grammar
import CardCrc.Proofs.Text.Numerals

/-!
# Reading arguments

An argument between blanks is a numeral in which underscores may stand anywhere.
Behind a marker, which itself is written without any, it is one of base sixteen.
Without a marker it is one of base ten.

What is read is the number of this numeral if it has at most 32 bits, and nothing
else is read. The reason of a refusal follows from the digits alone, but the
refused text is named as it was given, with its blanks and underscores.
-/

namespace CardCrc.Frame

open Numeral (Spells Outgrows)

/-- What is between the blanks gives digits in a base. Underscores are left out
only behind the marker. -/
inductive Based : (core : List Char) → (base : Nat) → (digits : List Char) → Prop
  /-- A zero and an `x` in either case are a marker of base sixteen. -/
  | hex (letter : Char) (either : letter = 'x' ∨ letter = 'X') (rest : List Char) :
    Based ('0' :: letter :: rest) 16 (rest.filter (· ≠ '_'))
  /-- Everything else is in base ten. -/
  | decimal (core : List Char)
    (unmarked : ∀ rest, core ≠ '0' :: 'x' :: rest ∧ core ≠ '0' :: 'X' :: rest) :
    Based core 10 (core.filter (· ≠ '_'))

/-- Everything gives digits in some base. -/
theorem exists_based (core : List Char) : ∃ base digits, Based core base digits := by
  cases marked : HexText.afterMarker? core with
  | none =>
    refine ⟨10, _, .decimal core fun rest => ⟨?_, ?_⟩⟩
    · rintro rfl
      exact nomatch marked
    · rintro rfl
      exact nomatch marked
  | some rest =>
    rcases (HexText.afterMarker?_eq_some_iff core rest).mp marked with rfl | rfl
    · exact ⟨16, _, .hex 'x' (Or.inl rfl) rest⟩
    · exact ⟨16, _, .hex 'X' (Or.inr rfl) rest⟩

namespace Based

variable {core digits : List Char} {base : Nat}

/-- There is a digit in either base. -/
theorem positive (based : Based core base digits) : 0 < base := by
  cases based with
  | hex => decide
  | decimal => decide

/-- These are the digits that are read, in the base that they are read in. -/
theorem argumentDigits_eq (based : Based core base digits) {text : List Char}
    (trimmed : Text.Trimmed text core) : argumentDigits text = (base, digits) := by
  rw [argumentDigits, ← trimmed.eq_trim]
  cases based with
  | hex letter either rest =>
    rcases either with rfl | rfl
    · rfl
    · rfl
  | decimal core unmarked =>
    have noMarker : HexText.afterMarker? core = none := by
      rw [Option.eq_none_iff_forall_ne_some]
      intro rest marked
      rcases (HexText.afterMarker?_eq_some_iff core rest).mp marked with same | same
      · exact (unmarked rest).1 same
      · exact (unmarked rest).2 same
    rw [noMarker]

/-- The number of the digits is the argument. -/
theorem readArgument_of_number (based : Based core base digits) {text : String}
    (trimmed : Text.Trimmed text.toList core) (value : Nat)
    (read : Numeral.read base (UInt32.size - 1) digits = .ok value) :
    readArgument text = .ok (UInt32.ofNat value) := by
  simp only [readArgument, based.argumentDigits_eq trimmed, read]

/-- A flaw of the digits is the reason of a refusal, and the whole text is named. -/
theorem readArgument_of_flaw (based : Based core base digits) {text : String}
    (trimmed : Text.Trimmed text.toList core) (flaw : Numeral.Flaw)
    (refused : Numeral.read base (UInt32.size - 1) digits = .error flaw) :
    readArgument text = .error (.malformed text (Complaint.number flaw).wording) := by
  simp only [readArgument, based.argumentDigits_eq trimmed, refused, Complaint.about]

/-- An argument that is a numeral of at most 32 bits is read as its number. -/
theorem readArgument_of_spells (based : Based core base digits) {text : String}
    (trimmed : Text.Trimmed text.toList core) (argument : UInt32)
    (spells : Spells base digits argument.toNat) : readArgument text = .ok argument := by
  have word : argument.toNat ≤ UInt32.size - 1 := Nat.le_sub_one_of_lt argument.toNat_lt_size
  have read := Numeral.read_of_spells based.positive digits argument.toNat spells word
  rw [based.readArgument_of_number trimmed argument.toNat read, UInt32.ofNat_toNat]

/-- What is read is the number of a numeral. -/
theorem spells_of_readArgument (based : Based core base digits) {text : String}
    (trimmed : Text.Trimmed text.toList core) (argument : UInt32)
    (accepted : readArgument text = .ok argument) : Spells base digits argument.toNat := by
  cases outcome : Numeral.read base (UInt32.size - 1) digits with
  | error flaw =>
    exact nomatch (based.readArgument_of_flaw trimmed flaw outcome).symm.trans accepted
  | ok value =>
    have read := (based.readArgument_of_number trimmed value outcome).symm.trans accepted
    obtain ⟨spells, within⟩ := (Numeral.read_eq_ok_iff based.positive digits value).mp outcome
    have word : value < UInt32.size := Nat.lt_of_le_sub_one (by decide) within
    have same : value = argument.toNat := by
      rw [← Except.ok.inj read, UInt32.toNat_ofNat_of_lt' word]
    exact same ▸ spells

end Based

/-- Every text has a core between blanks, and its digits in a base. The text is
read as an argument exactly when its digits are a numeral of the argument.

If they are not the numeral of any number of 32 bits, the text is malformed, and
the fault names it whole. Of no digits the reason is that there are none. Of
digits that outgrow 32 bits from the left, whatever follows there, the reason is
that the number is too large. Of all others the reason is a bad digit. -/
theorem argument_reading_exact :
    (∀ text : String, ∃ core base digits,
      Text.Trimmed text.toList core ∧ Based core base digits) ∧
    ∀ (text : String) (core : List Char) (base : Nat) (digits : List Char),
      Text.Trimmed text.toList core → Based core base digits →
      (∀ argument, readArgument text = .ok argument ↔ Spells base digits argument.toNat) ∧
      ((∀ value ≤ 2 ^ 32 - 1, ¬ Spells base digits value) →
        (digits = [] → readArgument text =
          .error (.malformed text "cannot parse integer from empty string")) ∧
        (Outgrows base (2 ^ 32 - 1) digits → readArgument text =
          .error (.malformed text "number too large to fit in target type")) ∧
        (digits ≠ [] → ¬ Outgrows base (2 ^ 32 - 1) digits → readArgument text =
          .error (.malformed text "invalid digit found in string"))) := by
  constructor
  · intro text
    obtain ⟨base, digits, based⟩ := exists_based (Text.trim text.toList)
    exact ⟨_, base, digits, Text.trimmed_trim text.toList, based⟩
  · intro text core base digits trimmed based
    refine ⟨fun argument => ⟨based.spells_of_readArgument trimmed argument,
      based.readArgument_of_spells trimmed argument⟩, fun noNumeral => ⟨?_, ?_, ?_⟩⟩
    · rintro rfl
      exact based.readArgument_of_flaw trimmed .empty rfl
    · intro outgrows
      exact based.readArgument_of_flaw trimmed .tooLarge
        (Numeral.read_of_outgrows digits outgrows)
    · intro present noGrowth
      exact based.readArgument_of_flaw trimmed .badDigit
        (Numeral.read_of_neither digits present noGrowth noNumeral)

/-- Between blanks, behind a marker and with underscores around its digits, 431 is
read. A number of 33 bits is too large although a bad digit follows it. An
underscore alone is no digit. -/
theorem argument_reading_exact_in_turn :
    Text.Trimmed " 0X_1aF_\n".toList "0X_1aF_".toList ∧
      Based "0X_1aF_".toList 16 "1aF".toList ∧ readArgument " 0X_1aF_\n" = .ok 431 ∧
      Based "4294967296x".toList 10 "4294967296x".toList ∧
      Outgrows 10 (2 ^ 32 - 1) "4294967296x".toList ∧
      readArgument "4294967296x" =
        .error (.malformed "4294967296x" "number too large to fit in target type") ∧
      Based "_".toList 10 [] ∧
      readArgument "_" = .error (.malformed "_" "cannot parse integer from empty string") := by
  have reading := argument_reading_exact.2
  have between : Text.Trimmed " 0X_1aF_\n".toList "0X_1aF_".toList := by
    have core : Text.trim " 0X_1aF_\n".toList = "0X_1aF_".toList := by decide
    exact core ▸ Text.trimmed_trim _
  have hex : Based "0X_1aF_".toList 16 "1aF".toList := .hex 'X' (Or.inr rfl) "_1aF_".toList
  have large : Text.Trimmed "4294967296x".toList "4294967296x".toList := Text.trimmed_trim _
  have decimal : Based "4294967296x".toList 10 "4294967296x".toList :=
    .decimal _ fun _ => ⟨by simp, by simp⟩
  have outgrows : Outgrows 10 (2 ^ 32 - 1) "4294967296x".toList :=
    ⟨[], by decide, "4294967296".toList, [4, 2, 9, 4, 9, 6, 7, 2, 9, 6], ['x'], by decide,
      by decide, by decide⟩
  have underscore : Text.Trimmed "_".toList "_".toList := Text.trimmed_trim _
  have nothing : Based "_".toList 10 [] := .decimal _ fun _ => ⟨by simp, by simp⟩
  have noNumeral (digits : List Char) (flaw : Numeral.Flaw)
      (refused : Numeral.read 10 (2 ^ 32 - 1) digits = .error flaw) :
      ∀ value ≤ 2 ^ 32 - 1, ¬ Spells 10 digits value := by
    intro value within spells
    exact nomatch (Numeral.read_of_spells (by decide) digits value spells within).symm.trans refused
  refine ⟨between, hex, ?_, decimal, outgrows, ?_, nothing, ?_⟩
  · exact ((reading _ _ _ _ between hex).1 431).mpr
      ⟨[], by decide, "1aF".toList, [1, 10, 15], by decide, by decide, by decide, by decide⟩
  · exact ((reading _ _ _ _ large decimal).2 (noNumeral _ .tooLarge (by decide))).2.1 outgrows
  · exact ((reading _ _ _ _ underscore nothing).2 (noNumeral _ .empty rfl)).1 rfl

end CardCrc.Frame
