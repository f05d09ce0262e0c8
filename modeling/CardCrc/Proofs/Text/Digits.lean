import CardCrc.Text.Numeral
import Mathlib.Data.Nat.Digits.Defs

/-!
# Digits and the numbers they stand for

A digit stands for its place in the row from zero to nine and `a` to `f`, where
the letters may be written in either case. A digit of a base stands for less
than the base. A row of digits, the first of them counting most, stands for the
sum of their numbers times powers of the base.
-/

namespace CardCrc.Numeral

/-- A character stands for a number when it has that place in the row of
digits. -/
def StandsFor (character : Char) (worth : Nat) : Prop :=
  "0123456789abcdef".toList[worth]? = some character ∨
    "0123456789ABCDEF".toList[worth]? = some character

instance (character : Char) (worth : Nat) : Decidable (StandsFor character worth) :=
  inferInstanceAs (Decidable (_ ∨ _))

/-- Characters stand for numbers one by one. -/
abbrev StandFor : List Char → List Nat → Prop := List.Forall₂ StandsFor

/-- Every one of several characters stands for a number in the sense in which they
all do. -/
theorem exists_of_mem {stands : Char → Nat → Prop} {characters : List Char} {worths : List Nat}
    (stand : List.Forall₂ stands characters worths) (character : Char)
    (member : character ∈ characters) : ∃ worth, stands character worth := by
  induction stand with
  | nil => exact nomatch member
  | cons first _ inductionHypothesis =>
    rcases List.mem_cons.mp member with rfl | later
    · exact ⟨_, first⟩
    · exact inductionHypothesis later

/-- The number that a row of digits stands for in a base. -/
def number (base : Nat) (worths : List Nat) : Nat := Nat.ofDigits base worths.reverse

/-- A further digit moves those before it up. -/
theorem number_concat (base : Nat) (worths : List Nat) (worth : Nat) :
    number base (worths ++ [worth]) = base * number base worths + worth := by
  rw [number, List.reverse_append, List.reverse_singleton, List.singleton_append,
    Nat.ofDigits_cons, Nat.add_comm]
  rfl

/-- A character is determined by its code point. -/
theorem eq_ofNat (character : Char) (code : Nat) (same : character.toNat = code) :
    character = Char.ofNat code := by
  rw [← same, Char.ofNat_toNat]

/-- A character that is read as a digit stands for the number read. -/
theorem standsFor_of_digit? (base : Nat) (character : Char) (worth : Nat)
    (found : digit? base character = some worth) : StandsFor character worth ∧ worth < base := by
  have decimals : ∀ worth < 10, StandsFor (Char.ofNat (48 + worth)) worth := by decide
  have smalls : ∀ worth < 16, 10 ≤ worth → StandsFor (Char.ofNat (87 + worth)) worth := by decide
  have capitals : ∀ worth < 16, 10 ≤ worth → StandsFor (Char.ofNat (55 + worth)) worth := by
    decide
  simp only [digit?, Option.filter_eq_some_iff, decide_eq_true_eq] at found
  obtain ⟨ranged, small⟩ := found
  refine ⟨?_, small⟩
  change (if 48 ≤ character.toNat ∧ character.toNat ≤ 57 then some (character.toNat - 48)
    else if 97 ≤ character.toNat ∧ character.toNat ≤ 102 then some (character.toNat - 97 + 10)
    else if 65 ≤ character.toNat ∧ character.toNat ≤ 70 then some (character.toNat - 65 + 10)
    else none) = some worth at ranged
  split at ranged
  case isTrue decimal =>
    have value : character.toNat - 48 = worth := Option.some.inj ranged
    rw [eq_ofNat character (48 + worth) (by omega)]
    exact decimals worth (by omega)
  case isFalse =>
    split at ranged
    case isTrue letter =>
      have value : character.toNat - 97 + 10 = worth := Option.some.inj ranged
      rw [eq_ofNat character (87 + worth) (by omega)]
      exact smalls worth (by omega) (by omega)
    case isFalse =>
      split at ranged
      case isTrue letter =>
        have value : character.toNat - 65 + 10 = worth := Option.some.inj ranged
        rw [eq_ofNat character (55 + worth) (by omega)]
        exact capitals worth (by omega) (by omega)
      case isFalse => exact nomatch ranged

/-- A character that stands for a number below sixteen is read as that number. -/
theorem digit?_of_standsFor (character : Char) (worth : Nat) (stands : StandsFor character worth) :
    digit? 16 character = some worth := by
  have smalls : ∀ worth < 16, "0123456789abcdef".toList[worth]?.bind (digit? 16) = some worth := by
    decide
  have capitals : ∀ worth < 16,
      "0123456789ABCDEF".toList[worth]?.bind (digit? 16) = some worth := by
    decide
  rcases stands with found | found
  · have inside : worth < 16 := (List.getElem?_eq_some_iff.mp found).1
    have read := smalls worth inside
    rw [found] at read
    exact read
  · have inside : worth < 16 := (List.getElem?_eq_some_iff.mp found).1
    have read := capitals worth inside
    rw [found] at read
    exact read

/-- The digit of a number below sixteen stands for it. -/
theorem standsFor_digitChar (worth : Nat) (small : worth < 16) :
    StandsFor (Nat.digitChar worth) worth :=
  (by decide : ∀ worth < 16, StandsFor (Nat.digitChar worth) worth) worth small

/-- The hex digits are the characters in the row, and nothing else is read as
one. -/
theorem digit?_sixteen_iff (character : Char) (worth : Nat) :
    digit? 16 character = some worth ↔ StandsFor character worth :=
  ⟨fun found => (standsFor_of_digit? 16 character worth found).1,
    digit?_of_standsFor character worth⟩

/-- The hex digits in either case. -/
def hexDigits : List Char := "0123456789abcdef".toList ++ "0123456789ABCDEF".toList

/-- What has been checked of the hex digits one by one holds of every character
that stands for a number. -/
theorem StandsFor.of_all {character : Char} {worth : Nat} (stands : StandsFor character worth)
    {holds : Char → Bool} (checked : hexDigits.all holds = true) : holds character = true := by
  apply List.all_eq_true.mp checked character
  rcases stands with found | found
  · exact List.mem_append_left _ (List.mem_of_getElem? found)
  · exact List.mem_append_right _ (List.mem_of_getElem? found)

/-- A hex digit stands for a number below sixteen. -/
theorem StandsFor.lt {character : Char} {worth : Nat} (stands : StandsFor character worth) :
    worth < 16 := by
  rcases stands with found | found
  · exact (List.getElem?_eq_some_iff.mp found).1
  · exact (List.getElem?_eq_some_iff.mp found).1

/-- A digit by itself stands for its own number. -/
theorem number_singleton (base worth : Nat) : number base [worth] = worth := by
  rw [number, List.reverse_singleton, Nat.ofDigits_singleton]

/-- Of two digits the first one counts the base times. -/
theorem number_pair (base high low : Nat) : number base [high, low] = base * high + low := by
  rw [← List.singleton_append, number_concat, number_singleton]

end CardCrc.Numeral
