import CardCrc.Command
import CardCrc.Text.Blank

/-!
# Commands in words

A command is named by its number or by its name, between blanks and in either
case. A number may follow `CMD` or `ACMD`. In a name, hyphens count as
underscores and a leading `SD_` may be left out. A text that reads as a number
is never looked up as a name.
-/

namespace CardCrc.Command

/-- A text without blanks around it, in capitals. -/
def capitals (text : String) : List Char := (Text.trim text.toList).map Char.toUpper

/-- What may stand in front of a number in capitals. -/
def capitalTags : List (List Char) := [['A', 'C', 'M', 'D'], ['C', 'M', 'D']]

/-- The word behind the first of some tags that it begins with, or all of it. -/
def withoutTag (tags : List (List Char)) (word : List Char) : List Char :=
  (tags.findSome? fun tag => tag.isPrefixOf? word).getD word

/-- The number that a word stands for, with one of some tags in front or none. -/
def number? (tags : List (List Char)) (word : List Char) : Option UInt8 :=
  match Numeral.read 10 255 (withoutTag tags word) with
  | .ok number => some (UInt8.ofNat number)
  | .error _ => none

/-- A hyphen as an underscore, any other character as itself. -/
def underscored (character : Char) : Char := if character = '-' then '_' else character

/-- Whether a word is the name of a command, or the name without `SD_` in front. -/
def isNamed (word : List Char) (command : Command) : Bool :=
  command.name.toList == word || ['S', 'D', '_'].isPrefixOf? command.name.toList == some word

/-- The command that a text stands for. -/
def ofText? (text : String) : Option Command :=
  let word := (capitals text).map underscored
  match number? capitalTags word with
  | some index => ofIndex? index
  | none => all.find? (isNamed word)

end CardCrc.Command
