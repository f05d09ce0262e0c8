import CardCrc.Text.CodeRange

/-!
# Blanks

Blanks are the twenty-five characters with the Unicode property White_Space.
They are dropped at both ends of a number or a command and kept inside it.
-/

namespace CardCrc.Text

/-- The characters with the property White_Space. -/
def whiteSpace : CodeRanges :=
  [(0x09, 0x0D), (0x20, 0x20), (0x85, 0x85), (0xA0, 0xA0), (0x1680, 0x1680), (0x2000, 0x200A),
    (0x2028, 0x2029), (0x202F, 0x202F), (0x205F, 0x205F), (0x3000, 0x3000)]

/-- A blank is a character with the property White_Space. -/
def isBlank (character : Char) : Bool := whiteSpace.holds character

/-- The text without the blanks in front of it. -/
def trimFront (text : List Char) : List Char := text.dropWhile isBlank

/-- The text without the blanks at either end. -/
def trim (text : List Char) : List Char := (trimFront (trimFront text).reverse).reverse

end CardCrc.Text
