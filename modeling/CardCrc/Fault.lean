import CardCrc.Text.Quoted

/-!
# Faults

The checksum itself cannot fail. A fault arises where untrusted input, that is
hex text, integers or a received frame, is turned into bytes or numbers. Each
fault carries what a caller needs to point at the input, and has one message.
-/

namespace CardCrc

/-- Why an input was refused. -/
inductive Fault
  /-- A text is not the number, bytes or command it should be. -/
  | malformed (input reason : String)
  /-- A number at a position of the input is not in `0..limit`. -/
  | outOfRange (index : Nat) (value limit : Int)
  /-- A frame has the wrong number of bytes. -/
  | frameLength (expected found : Nat)
  /-- The first byte of a frame does not begin with the start bits. -/
  | startBits (byte : UInt8)
  /-- The last byte of a frame is not the checksum of the others. -/
  | checksumMismatch (received computed : UInt8)
deriving DecidableEq

/-- What is wrong with a malformed text. -/
inductive Complaint
  | noHexDigits
  | misplacedSeparator
  | badHexDigit (character : Char)
  | oddHexDigits
  | number (flaw : Numeral.Flaw)
  | unknownCommand
deriving DecidableEq

/-- The wording of a complaint. -/
def Complaint.wording : Complaint → String
  | noHexDigits => "no hex digits"
  | misplacedSeparator => "misplaced digit separator"
  | badHexDigit character => "invalid hex digit " ++ String.ofList (Text.quotedCharacter character)
  | oddHexDigits => "odd number of hex digits"
  | number .empty => "cannot parse integer from empty string"
  | number .badDigit => "invalid digit found in string"
  | number .tooLarge => "number too large to fit in target type"
  | unknownCommand => "unknown command"

/-- The fault of refusing `input` for a complaint. -/
def Complaint.about (complaint : Complaint) (input : String) : Fault :=
  .malformed input complaint.wording

namespace Fault

/-- A number that is not a byte. -/
def notByte (index : Nat) (value : Int) : Fault := .outOfRange index value 255

/-- Whether a text was refused for its form. -/
def isMalformed : Fault → Bool
  | malformed .. => true
  | _ => false

/-- Whether a number was refused for its size. -/
def isOutOfRange : Fault → Bool
  | outOfRange .. => true
  | _ => false

/-- Place a number that is out of range at a position of the whole input. Other
faults name their text themselves and stay as they are. -/
def atIndex (index : Nat) : Fault → Fault
  | outOfRange _ value limit => .outOfRange index value limit
  | fault => fault

/-- A byte in hex behind the usual marker. -/
private def byteText (byte : UInt8) : String := "0x" ++ Numeral.hexByte byte

/-- The one line that tells a reader what was refused and why. -/
def message : Fault → String
  | malformed input reason =>
    "Invalid hex byte " ++ String.ofList (Text.quoted input.toList) ++ ": " ++ reason
  | outOfRange index value limit =>
    "Value " ++ Numeral.integer value ++ " at index " ++ Numeral.decimal index ++
      " is out of range (expected 0..=" ++ Numeral.integer limit ++ ")"
  | frameLength expected found =>
    "Invalid frame length: expected " ++ Numeral.decimal expected ++ " bytes, found " ++
      Numeral.decimal found
  | startBits byte => "Invalid start bits in command byte " ++ byteText byte
  | checksumMismatch received computed =>
    "CRC mismatch: expected " ++ byteText received ++ ", computed " ++ byteText computed

end Fault

end CardCrc
