import CardCrc.Fault
import CardCrc.Text.Blank

/-!
# Hex integers

A hex integer is written between blanks as an optional sign, an optional marker
`0x` or `0X`, and groups of digits with one underscore between two groups. One
further underscore may stand behind the marker. Numbers of any length are read;
a magnitude beyond `2^63 - 1` counts as that.
-/

namespace CardCrc.HexText

/-- The text behind a hex marker, if there is one. -/
def afterMarker? : List Char → Option (List Char)
  | '0' :: 'x' :: rest => some rest
  | '0' :: 'X' :: rest => some rest
  | _ => none

/-- The text without one hex marker in front. -/
def dropMarker (text : List Char) : List Char := (afterMarker? text).getD text

/-- Whether a minus sign stands in front, and the text behind the sign. -/
def splitSign : List Char → Bool × List Char
  | '-' :: rest => (true, rest)
  | '+' :: rest => (false, rest)
  | text => (false, text)

/-- The digits with their separators. Behind a marker one separator may open
them. -/
def digitPart (unsigned : List Char) : List Char :=
  match afterMarker? unsigned with
  | some ('_' :: rest) => rest
  | some rest => rest
  | none => unsigned

/-- The largest magnitude that is told apart from larger ones. -/
def largestMagnitude : Nat := 0x7FFFFFFFFFFFFFFF

/-- Read hex digits behind those that have given `magnitude` so far. -/
def readMagnitude (magnitude : Nat) : List Char → Except Complaint Nat
  | [] => .ok magnitude
  | character :: rest =>
    match Numeral.digit? 16 character with
    | some digit => readMagnitude (min (16 * magnitude + digit) largestMagnitude) rest
    | none => .error (.badHexDigit character)

/-- Read groups of digits. An empty group means a separator at either end or
beside another one, and is reported before any bad digit. -/
def readGroups (digits : List Char) : Except Complaint Nat :=
  let groups := digits.splitOn '_'
  if digits.isEmpty then .error .noHexDigits
  else if groups.any List.isEmpty then .error .misplacedSeparator
  else readMagnitude 0 groups.flatten

/-- Read the text of a hex integer. -/
def readInteger (text : List Char) : Except Complaint Int :=
  let (negative, unsigned) := splitSign (Text.trim text)
  (readGroups (digitPart unsigned)).map fun magnitude =>
    if negative then -(magnitude : Int) else magnitude

end CardCrc.HexText
