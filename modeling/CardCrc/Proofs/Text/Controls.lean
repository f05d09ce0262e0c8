import CardCrc.Proofs.Text.Numerals
import CardCrc.Text.Quoted

/-!
# Text without control characters

A text is clean when it holds no control character, neither one of the first
thirty-two nor one of those from delete to the end of the second such block. A
line break is a control character, so a clean text is on one line.

Numerals are clean because they are made of digits. A quotation is clean
whatever it quotes: a character that is shown as it is has a visible form, which
no control character has, and every other character is replaced by an escape.
-/

namespace CardCrc

namespace Text

/-- The control characters, in two blocks of code points. -/
def IsControl (character : Char) : Prop :=
  character.toNat ≤ 0x1F ∨ 0x7F ≤ character.toNat ∧ character.toNat ≤ 0x9F

instance (character : Char) : Decidable (IsControl character) :=
  inferInstanceAs (Decidable (_ ∨ _))

/-- There is no control character in a text. -/
def Clean (text : List Char) : Prop := ∀ character ∈ text, ¬ IsControl character

-- By the list, as there is also a search of all characters.
instance (text : List Char) : Decidable (Clean text) :=
  List.decidableBAll (fun character => ¬ IsControl character) text

/-- Two texts are clean together when each of them is. -/
@[simp] theorem clean_append (first second : List Char) :
    Clean (first ++ second) ↔ Clean first ∧ Clean second := List.forall_mem_append

/-- Two strings are clean together when each of them is. -/
@[simp] theorem clean_toList_append (first second : String) :
    Clean (first ++ second).toList ↔ Clean first.toList ∧ Clean second.toList := by
  rw [String.toList_append, clean_append]

/-- A string of clean characters is clean. -/
theorem clean_ofList {text : List Char} (clean : Clean text) :
    Clean (String.ofList text).toList := by
  rw [String.toList_ofList]
  exact clean

/-- A text put together from clean pieces is clean. -/
theorem clean_flatMap {α : Type} (items : List α) (piece : α → List Char)
    (clean : ∀ item ∈ items, Clean (piece item)) : Clean (items.flatMap piece) := by
  intro character member
  obtain ⟨item, present, inside⟩ := List.mem_flatMap.mp member
  exact clean item present character inside

end Text

namespace Numeral

open Text (Clean)

/-- Digits are clean. -/
theorem AreDigits.clean {base : Nat} {digits : List Char} {worths : List Nat}
    (areDigits : AreDigits base digits worths) : Clean digits := by
  have checked : hexDigits.all (fun digit => decide ¬ Text.IsControl digit) = true := by decide
  intro character member
  exact of_decide_eq_true (areDigits.of_all checked character member)

/-- A numeral with no padding is clean. -/
theorem clean_toDigits (base number : Nat) (atLeastTwo : 1 < base) (small : base ≤ 16) :
    Clean (Nat.toDigits base number) := by
  obtain ⟨worths, areDigits, -⟩ := areDigits_toDigits base number atLeastTwo small
  exact areDigits.clean

/-- A row of places is clean. -/
theorem clean_fixed (base places number : Nat) (positive : 0 < base) (small : base ≤ 16) :
    Clean (fixed base places number) := by
  obtain ⟨worths, areDigits, -⟩ := areDigits_fixed base places number positive small
  exact areDigits.clean

/-- A decimal numeral is clean. -/
@[simp] theorem clean_decimal (number : Nat) : Clean (decimal number).toList :=
  Text.clean_ofList (clean_toDigits 10 number (by decide) (by decide))

/-- The decimal numeral of an integer is clean, its sign included. -/
@[simp] theorem clean_integer (number : Int) : Clean (integer number).toList := by
  cases number with
  | ofNat number => exact clean_decimal number
  | negSucc number =>
    exact (Text.clean_toList_append _ _).mpr ⟨by decide, clean_decimal (number + 1)⟩

/-- A byte written in hex is clean. -/
@[simp] theorem clean_hexByte (byte : UInt8) : Clean (hexByte byte).toList :=
  Text.clean_ofList (clean_fixed 16 2 byte.toNat (by decide) (by decide))

end Numeral

namespace Text

/-- No control character is printable: both blocks are among the characters
without a visible form. -/
theorem not_isControl_of_isPrintable (character : Char)
    (printable : isPrintable character = true) : ¬ IsControl character := by
  have visible : unprintable.holds character = false := by
    simp only [isPrintable, Bool.and_eq_true, Bool.not_eq_true'] at printable
    exact printable.1.1
  have hidden (range : Nat × Nat) (known : range ∈ unprintable)
      (bounds : range.1 ≤ character.toNat ∧ character.toNat ≤ range.2) : False := by
    have held := (CodeRanges.holds_iff unprintable character).mpr ⟨range, known, bounds⟩
    exact absurd (visible.symm.trans held) Bool.false_ne_true
  rintro (low | ⟨lower, upper⟩)
  · exact hidden (0x0, 0x1F) List.mem_cons_self ⟨Nat.zero_le _, low⟩
  · exact hidden (0x7F, 0xA0) (List.mem_cons_of_mem _ List.mem_cons_self)
      ⟨lower, Nat.le_trans upper (by decide)⟩

/-- What stands for a character inside a quotation is clean. -/
theorem clean_escaped (mark character : Char) (visible : ¬ IsControl mark) :
    Clean (escaped mark character) := by
  rw [escaped]
  split
  · decide
  split
  · decide
  split
  · decide
  split
  · decide
  split
  case isTrue special =>
    rcases special with rfl | rfl
    · decide
    · exact List.forall_mem_cons.mpr ⟨by decide, List.forall_mem_singleton.mpr visible⟩
  split
  case isTrue printable =>
    exact List.forall_mem_singleton.mpr (not_isControl_of_isPrintable character printable)
  case isFalse =>
    rw [codePointEscape, clean_append, clean_append]
    exact ⟨⟨by decide, Numeral.clean_toDigits 16 _ (by decide) (by decide)⟩, by decide⟩

/-- A quotation is clean, whatever text it quotes. -/
theorem clean_quoted (text : List Char) : Clean (quoted text) := by
  rw [quoted, clean_append, clean_append]
  refine ⟨⟨by decide, ?_⟩, by decide⟩
  exact clean_flatMap text (escaped '"') fun character _ =>
    clean_escaped '"' character (by decide)

/-- The quotation of a single character is clean. -/
theorem clean_quotedCharacter (character : Char) : Clean (quotedCharacter character) := by
  rw [quotedCharacter, clean_append, clean_append]
  exact ⟨⟨by decide, clean_escaped '\'' character (by decide)⟩, by decide⟩

end Text

end CardCrc
