/-!
# Numerals

Numbers are written in decimal with no padding, or in a fixed number of places
of some base with zeros in front. They are read as an optional plus sign and
one or more digits, up to a largest number. Reading goes from left to right and
stops at the first thing wrong, so of a bad digit and a number grown too large
the one further left is reported.
-/

namespace CardCrc.Numeral

/-- The decimal numeral of a natural number. -/
def decimal (number : Nat) : String := String.ofList (Nat.toDigits 10 number)

/-- The decimal numeral of an integer, with a minus sign in front of a negative one. -/
def integer : Int → String
  | .ofNat number => decimal number
  | .negSucc number => "-" ++ decimal (number + 1)

/-- The last `places` digits of a number in a base of at most sixteen, lower case. -/
def fixed (base : Nat) : (places : Nat) → (number : Nat) → List Char
  | 0, _ => []
  | places + 1, number => fixed base places (number / base) ++ [Nat.digitChar (number % base)]

/-- A byte as two hex digits. -/
def hexByte (byte : UInt8) : String := String.ofList (fixed 16 2 byte.toNat)

/-- The number a character stands for as a digit of a base of at most sixteen.
Letters count in either case; only ASCII characters are digits. -/
def digit? (base : Nat) (character : Char) : Option Nat :=
  let code := character.toNat
  let worth :=
    if '0'.toNat ≤ code ∧ code ≤ '9'.toNat then some (code - '0'.toNat)
    else if 'a'.toNat ≤ code ∧ code ≤ 'f'.toNat then some (code - 'a'.toNat + 10)
    else if 'A'.toNat ≤ code ∧ code ≤ 'F'.toNat then some (code - 'A'.toNat + 10)
    else none
  worth.filter (· < base)

/-- Why a text is not the numeral of a number within its limit. -/
inductive Flaw
  | empty
  | badDigit
  | tooLarge
deriving DecidableEq

/-- Read digits behind those that have given `number` so far. -/
def readDigits (base limit : Nat) (number : Nat) : List Char → Except Flaw Nat
  | [] => .ok number
  | character :: rest =>
    match digit? base character with
    | none => .error .badDigit
    | some digit =>
      let next := base * number + digit
      if next ≤ limit then readDigits base limit next rest else .error .tooLarge

/-- Read a whole text as a number of at most `limit`. A plus sign needs a digit
after it. -/
def read (base limit : Nat) : List Char → Except Flaw Nat
  | [] => .error .empty
  | ['+'] => .error .badDigit
  | '+' :: digits => readDigits base limit 0 digits
  | digits => readDigits base limit 0 digits

end CardCrc.Numeral
