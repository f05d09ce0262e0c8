import CardCrc.Command.Lookup
import CardCrc.Frame
import CardCrc.HexText.Integer

/-!
# Frames asked for in words

A frame is asked for by a command text and an argument text. The command is a
known one, or any command number of six bits. The argument is a decimal number,
or a hex number behind `0x` or `0X`, of at most 32 bits; underscores in it mean
nothing. Both texts may have blanks around them, and a refused text is named
with them.
-/

namespace CardCrc.Frame

/-- The base of an argument and its digits. -/
def argumentDigits (text : List Char) : Nat × List Char :=
  let trimmed := Text.trim text
  let (base, digits) :=
    match HexText.afterMarker? trimmed with
    | some digits => (16, digits)
    | none => (10, trimmed)
  (base, digits.filter (· ≠ '_'))

/-- Read an argument. -/
def readArgument (text : String) : Except Fault UInt32 :=
  let (base, digits) := argumentDigits text.toList
  match Numeral.read base (UInt32.size - 1) digits with
  | .ok argument => .ok (UInt32.ofNat argument)
  | .error flaw => .error ((Complaint.number flaw).about text)

/-- A text without blanks around it, in small letters. -/
def smallLetters (text : String) : List Char := (Text.trim text.toList).map Char.toLower

/-- What may stand in front of a number in small letters. -/
def smallTags : List (List Char) := [['a', 'c', 'm', 'd'], ['c', 'm', 'd']]

/-- The frame of the command that a text stands for. A text that stands for none
is read once more as a number, in small letters and with its hyphens, since a
number needs no command to be known, only six bits. -/
def ofText (text : String) (argument : UInt32) : Except Fault Frame :=
  match Command.ofText? text with
  | some command => .ok (ofCommand command argument)
  | none =>
    match Command.number? smallTags (smallLetters text) with
    | some index => ofIndex index argument
    | none => .error (Complaint.unknownCommand.about text)

/-- The frame of a command text and an argument text. The argument is read first. -/
def ofRequest (command argument : String) : Except Fault Frame := do
  ofText command (← readArgument argument)

end CardCrc.Frame
