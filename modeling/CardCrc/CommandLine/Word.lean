import CardCrc.Report.Checksum

/-!
# Words of the command line

A form of the command line knows some switches and takes values between them. A
word that begins with a hyphen names switches: one in full behind two hyphens,
or several by their letters behind one. The value of a switch that takes one is
the rest of its word, behind an optional equals sign, or else the next word.
Every other word is a value itself, as are a lone hyphen, every word behind `--`
and, in a form that allows it, a negative number.
-/

namespace CardCrc.CommandLine

/-- A switch that takes no value. -/
inductive Flag
  | help
  | version
  | trace
  | json
deriving DecidableEq

/-- A switch of the command line. -/
inductive Switch
  | flag (flag : Flag)
  /-- The format of the checksum, which takes a value. -/
  | format
deriving DecidableEq

/-- The letter of a switch. -/
def Switch.letter : Switch → Char
  | flag .help => 'h'
  | flag .version => 'V'
  | flag .trace => 't'
  | flag .json => 'j'
  | format => 'f'

/-- The name of a switch in full. -/
def Switch.name : Switch → String
  | flag .help => "help"
  | flag .version => "version"
  | flag .trace => "trace"
  | flag .json => "json"
  | format => "format"

/-- What may stand on a command line of one form. -/
structure Form where
  /-- The switches of the form. -/
  switches : List Switch
  /-- Whether a negative number is a value rather than letters of switches. -/
  negativeNumbers : Bool
  /-- Whether a text may be the value behind a number of others. -/
  accepts : Nat → String → Bool

/-- What a word of the command line says. -/
inductive Item
  | value (text : String)
  | flag (flag : Flag)
  /-- A format with its value. -/
  | format (text : String)
  /-- A format whose value is the next word. -/
  | formatNext
  /-- Only values follow. -/
  | onlyValues
  /-- A switch that the form does not know, or a value for one that takes none. -/
  | unknown
deriving DecidableEq

/-- An exponent of a number: its letter and one or more digits, or nothing. -/
def isExponent : List Char → Bool
  | [] => true
  | letter :: digits =>
    (letter == 'e' || letter == 'E') && !digits.isEmpty && digits.all Char.isDigit

/-- A number without its sign: one or more digits, at most one point behind them
with any digits behind it, and an exponent. -/
def isNumber (text : List Char) : Bool :=
  !(text.takeWhile Char.isDigit).isEmpty &&
    match text.dropWhile Char.isDigit with
    | '.' :: fraction => isExponent (fraction.dropWhile Char.isDigit)
    | rest => isExponent rest

/-- What a switch in full says. -/
def Form.ofName (form : Form) (text : List Char) : Item :=
  let name := text.takeWhile (· ≠ '=')
  let attached := match text.dropWhile (· ≠ '=') with
    | [] => none
    | _ :: value => some (String.ofList value)
  match form.switches.find? (·.name.toList == name), attached with
  | some (.flag flag), none => .flag flag
  | some .format, some value => .format value
  | some .format, none => .formatNext
  | _, _ => .unknown

/-- What letters of switches say. The letter of a format takes the rest as its
value. -/
def Form.ofLetters (form : Form) : List Char → List Item
  | [] => []
  | letter :: rest =>
    match form.switches.find? (·.letter == letter) with
    | some (.flag flag) => .flag flag :: form.ofLetters rest
    | some .format =>
      match rest with
      | [] => [.formatNext]
      | '=' :: value => [.format (String.ofList value)]
      | value => [.format (String.ofList value)]
    | none => [.unknown]

/-- What a word says. -/
def Form.ofWord (form : Form) (word : String) : List Item :=
  match word.toList with
  | '-' :: '-' :: name => [form.ofName name]
  | '-' :: letter :: rest =>
    if form.negativeNumbers && isNumber (letter :: rest) then [.value word]
    else form.ofLetters (letter :: rest)
  | _ => [.value word]

/-- What a command line says. -/
def Form.items (form : Form) : List String → List Item
  | [] => []
  | word :: rest =>
    if word = "--" then .onlyValues :: rest.map .value
    else form.ofWord word ++ form.items rest

end CardCrc.CommandLine
