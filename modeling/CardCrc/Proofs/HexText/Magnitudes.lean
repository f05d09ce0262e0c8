import CardCrc.Proofs.HexText.Shapes

/-!
# Magnitudes beyond the largest

A signed word of 64 bits holds the numbers from `-2^63` to `2^63 - 1`. A hex
integer may stand for a number of any size, but what is reported of one that is
no byte fits into a word.

The magnitude comes first and is brought back to `2^63 - 1` after every digit. It
is at all times the number that the digits so far stand for, or the largest
magnitude, so that nothing wraps on the way. The sign comes last, and by then the
magnitude of the smallest word is lost: `-2^63` is reported as the number above
it, and so is everything below. All other numbers are reported as the nearest
word.
-/

namespace CardCrc.HexText

open Numeral (StandFor number)

/-- The signed word of 64 bits that is nearest to a number. -/
def nearestWord (value : Int) : Int := max (-2 ^ 63) (min value (2 ^ 63 - 1))

/-- A number that is brought back becomes the nearest word unless it is the
smallest word or below it. -/
theorem saturated_eq_nearestWord_iff (value : Int) :
    saturated value = nearestWord value ↔ -2 ^ 63 < value := by
  simp only [saturated, nearestWord, largestMagnitude]
  omega

/-- From the smallest word down, it becomes the number above the smallest word. -/
theorem saturated_of_le (value : Int) (small : value ≤ -2 ^ 63) :
    saturated value = -2 ^ 63 + 1 := by
  simp only [saturated, largestMagnitude]
  omega

/-- A hex integer that stands for no byte is out of range. The number reported is the
nearest word exactly if the integer stands for more than the smallest word;
otherwise it is the number above the smallest word.

On the way there, the magnitude behind any digits is the number they stand for, or
the largest magnitude if that is smaller. -/
theorem out_of_range_reported (text : String) (core : List Char)
    (trimmed : Text.Trimmed text.toList core) (value : Int) (denotes : Denotes core value)
    (noByte : ¬ (0 ≤ value ∧ value ≤ 255)) :
    (∃ reported, readByte text = .error (.outOfRange 0 reported 255) ∧
      (reported = nearestWord value ↔ -2 ^ 63 < value) ∧
      (value ≤ -2 ^ 63 → reported = -2 ^ 63 + 1)) ∧
    ∀ (digits rest : List Char) (worths : List Nat), StandFor digits worths →
      readMagnitude 0 (digits ++ rest) =
        readMagnitude (min (number 16 worths) (2 ^ 63 - 1)) rest := by
  constructor
  · exact ⟨saturated value, readByte_of_no_byte text core trimmed value denotes noByte,
      saturated_eq_nearestWord_iff value, saturated_of_le value⟩
  · intro digits rest worths stand
    exact readMagnitude_append_of_standFor [] digits worths stand rest

/-- The smallest magnitude that is brought back, behind any sign. -/
theorem denotes_beyond (sign : List Char) (known : sign ∈ signs) :
    Denotes (sign ++ "8000000000000000".toList)
      (if sign = ['-'] then -2 ^ 63 else 2 ^ 63) := by
  have stand : StandFor "8000000000000000".toList (8 :: List.replicate 15 0) := by decide
  have worth : number 16 (8 :: List.replicate 15 0) = 2 ^ 63 := by decide
  refine ⟨sign, known, [], by decide, _, _,
    ⟨["8000000000000000".toList], by decide, by decide, stand, rfl⟩, rfl, ?_⟩
  rw [worth]
  rfl

/-- The first number beyond the largest word is reported as this word. Its digits
leave the largest magnitude behind, and the line break after them is dropped. -/
theorem out_of_range_reported_beyond :
    Denotes "8000000000000000".toList (2 ^ 63) ∧
      (∃ reported, readByte "8000000000000000\n" = .error (.outOfRange 0 reported 255) ∧
        reported = nearestWord (2 ^ 63)) ∧
      readMagnitude 0 ("8000000000000000".toList ++ ['f']) = readMagnitude (2 ^ 63 - 1) ['f'] := by
  have stand : StandFor "8000000000000000".toList (8 :: List.replicate 15 0) := by decide
  have denotes := denotes_beyond [] (by decide)
  have trimmed := denotes.trimmed [] ['\n'] (List.forall_mem_nil _)
    (List.forall_mem_singleton.mpr (by decide))
  obtain ⟨⟨reported, refused, nearest, -⟩, behind⟩ :=
    out_of_range_reported "8000000000000000\n" _ trimmed _ denotes (by decide)
  exact ⟨denotes, ⟨reported, refused, nearest.mpr (by decide)⟩, behind _ ['f'] _ stand⟩

/-- The smallest word is not reported as the nearest word, which is itself. -/
theorem smallest_word_misreported :
    ¬ ∀ (text : String) (core : List Char) (value : Int), Text.Trimmed text.toList core →
      Denotes core value → ¬ (0 ≤ value ∧ value ≤ 255) →
      readByte text = .error (.outOfRange 0 (nearestWord value) 255) := by
  intro nearest
  have denotes := denotes_beyond ['-'] (by decide)
  have claimed := nearest "-8000000000000000" _ _ (Text.trimmed_trim _) denotes (by decide)
  have reported : readByte "-8000000000000000" = .error (.outOfRange 0 (-2 ^ 63 + 1) 255) := by
    decide
  rw [reported] at claimed
  exact absurd claimed (by decide)

end CardCrc.HexText
