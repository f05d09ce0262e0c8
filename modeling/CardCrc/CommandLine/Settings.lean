import CardCrc.CommandLine.Word

/-!
# Settings of a run

Items are taken in order. A call for help or for the version ends the reading at
once, and so does the first mistake, so of the two the earlier decides. It is a
mistake to give a switch twice or to give a value that the form does not accept.
-/

namespace CardCrc.CommandLine

/-- What a command line has set so far. -/
structure Settings where
  trace : Bool := false
  json : Bool := false
  format : Option Report.ByteFormat := none
  /-- The values in order. -/
  values : List String := []
deriving DecidableEq

/-- Why a command line is not carried out. -/
inductive Stop
  | help
  | version
  | misuse
deriving DecidableEq

/-- The format of a name. Only lower case names count. -/
def formatOfName? : String → Option Report.ByteFormat
  | "dec" => some .decimal
  | "hex" => some .hex
  | "bin" => some .binary
  | _ => none

namespace Settings

/-- Set a flag that has not been set before. -/
def setFlag (settings : Settings) : Flag → Except Stop Settings
  | .help => .error .help
  | .version => .error .version
  | .trace => if settings.trace then .error .misuse else .ok { settings with trace := true }
  | .json => if settings.json then .error .misuse else .ok { settings with json := true }

/-- Set the format if it has not been set before. -/
def setFormat (settings : Settings) (name : String) : Except Stop Settings :=
  match settings.format, formatOfName? name with
  | none, some format => .ok { settings with format := some format }
  | _, _ => .error .misuse

/-- Add a value that the form accepts. -/
def addValue (settings : Settings) (form : Form) (text : String) : Except Stop Settings :=
  if form.accepts settings.values.length text then
    .ok { settings with values := settings.values ++ [text] }
  else .error .misuse

/-- Take items in order. -/
def take (form : Form) (settings : Settings) : List Item → Except Stop Settings
  | [] => .ok settings
  | .value text :: rest => do take form (← settings.addValue form text) rest
  | .flag flag :: rest => do take form (← settings.setFlag flag) rest
  | .format name :: rest => do take form (← settings.setFormat name) rest
  | .formatNext :: .value name :: rest => do take form (← settings.setFormat name) rest
  | .formatNext :: _ => .error .misuse
  | .onlyValues :: rest => take form settings rest
  | .unknown :: _ => .error .misuse

/-- The settings of a command line. -/
def ofWords (form : Form) (words : List String) : Except Stop Settings :=
  take form {} (form.items words)

end Settings

end CardCrc.CommandLine
