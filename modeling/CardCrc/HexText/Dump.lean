import CardCrc.HexText.Byte

/-!
# Hex dumps

A dump is a text of tokens with ASCII blanks, colons or commas between them. A
short token is a single byte, written as hex text. A longer one is packed, two
digits to a byte, and may open with a hex marker. Tokens are read in order and
the first one refused is the fault.
-/

namespace CardCrc.HexText

/-- The characters between tokens. The vertical tab is not one of them. -/
def isSeparator (character : Char) : Bool :=
  character ∈ [' ', '\t', '\n', '\x0c', '\r', ':', ',']

/-- The tokens of a dump in order. -/
def tokens (text : List Char) : List (List Char) :=
  (text.splitOnP isSeparator).filter fun token => !token.isEmpty

/-- Whether a character is a hex digit. -/
def isHexDigit (character : Char) : Bool := (Numeral.digit? 16 character).isSome

/-- The bytes of packed digits, if every two characters are a byte. -/
def packedBytes? : List Char → Option (List UInt8)
  | [] => some []
  | [_] => none
  | high :: low :: rest => do
    let high ← Numeral.digit? 16 high
    let low ← Numeral.digit? 16 low
    let bytes ← packedBytes? rest
    return UInt8.ofNat (16 * high + low) :: bytes

/-- The length of a text in UTF-8. -/
def utf8Length (text : List Char) : Nat :=
  text.foldr (fun character length => character.utf8Size + length) 0

/-- Read the digits of a packed token. A bad digit is reported before an odd
number of digits. -/
def readPacked (digits : List Char) : Except Complaint (List UInt8) :=
  match digits.find? fun character => !isHexDigit character with
  | some character => .error (.badHexDigit character)
  | none =>
    match packedBytes? digits with
    | some bytes => .ok bytes
    | none => .error .oddHexDigits

/-- Read a token with `decoded` bytes in front of it. It is short when at most
two bytes of UTF-8 follow its marker. -/
def readToken (decoded : Nat) (token : List Char) : Except Fault (List UInt8) :=
  let digits := dropMarker token
  if utf8Length digits ≤ 2 then
    (readByteAt decoded (String.ofList token)).map fun byte => [byte]
  else
    (readPacked digits).mapError (Complaint.about · (String.ofList token))

/-- Read tokens with `decoded` bytes in front of them. -/
def readTokens (decoded : Nat) : List (List Char) → Except Fault (List UInt8)
  | [] => .ok []
  | token :: rest => do
    let bytes ← readToken decoded token
    let others ← readTokens (decoded + bytes.length) rest
    return bytes ++ others

/-- Read all bytes of a dump. -/
def readDump (text : String) : Except Fault (List UInt8) := readTokens 0 (tokens text.toList)

end CardCrc.HexText
