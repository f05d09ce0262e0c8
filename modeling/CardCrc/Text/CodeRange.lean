/-!
# Sets of characters as code point ranges

A property of characters is given as a list of ranges, both ends included, in
ascending order. Membership is read off the ranges alone, so a table is data
and needs no reasoning about how it was searched.
-/

namespace CardCrc.Text

/-- A set of characters, as ranges of code points with both ends included. -/
abbrev CodeRanges := List (Nat × Nat)

/-- A character is in the set when its code point lies in one of the ranges. -/
def CodeRanges.holds (ranges : CodeRanges) (character : Char) : Bool :=
  ranges.any fun (first, last) => first ≤ character.toNat && character.toNat ≤ last

/-- Membership names a range and the two bounds the code point keeps. -/
theorem CodeRanges.holds_iff (ranges : CodeRanges) (character : Char) :
    ranges.holds character = true ↔
      ∃ range ∈ ranges, range.1 ≤ character.toNat ∧ character.toNat ≤ range.2 := by
  simp [holds]

end CardCrc.Text
