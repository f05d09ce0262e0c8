import CardCrc.Text.Numeral
import CardCrc.Text.Printable

/-!
# Quoted text

A text is shown between double quotes and a single character between single
ones. The mark that closes the quotation and the backslash are always escaped,
the four commonest controls have short escapes, and every other character that
is not printable is written as its code point. The quotation therefore holds no
control character, and the first unescaped mark ends it.
-/

namespace CardCrc.Text

/-- A code point in hex with no padding, between braces. -/
def codePointEscape (character : Char) : List Char :=
  ['\\', 'u', '\x7b'] ++ Nat.toDigits 16 character.toNat ++ ['\x7d']

/-- What stands for one character inside a quotation that `mark` closes. -/
def escaped (mark character : Char) : List Char :=
  if character = '\x00' then ['\\', '0']
  else if character = '\t' then ['\\', 't']
  else if character = '\r' then ['\\', 'r']
  else if character = '\n' then ['\\', 'n']
  else if character = '\\' ∨ character = mark then ['\\', character]
  else if isPrintable character then [character]
  else codePointEscape character

/-- A text between double quotes. -/
def quoted (text : List Char) : List Char := ['"'] ++ text.flatMap (escaped '"') ++ ['"']

/-- A character between single quotes. -/
def quotedCharacter (character : Char) : List Char := ['\''] ++ escaped '\'' character ++ ['\'']

end CardCrc.Text
