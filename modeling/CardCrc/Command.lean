import CardCrc.Text.Numeral

/-!
# Card commands

The commands that bring up a memory card, each with its number and its name. An
application command shares its number with an ordinary one and takes effect only
after the command that announces it; a number alone stands for the command
listed here.
-/

namespace CardCrc

/-- A command issued while bringing up a card. -/
inductive Command
  /-- Reset the card into its idle state. -/
  | goIdleState
  /-- Send the interface condition, which checks the voltage. -/
  | sendIfCond
  /-- Read the card-specific data register. -/
  | sendCsd
  /-- Read the card identification register. -/
  | sendCid
  /-- Start initialization; an application command. -/
  | sendOpCond
  /-- Announce that the next command is an application command. -/
  | appCommand
  /-- Read the operating conditions register. -/
  | readOcr
  /-- Turn checksum checking on or off. -/
  | crcOnOff
deriving DecidableEq

namespace Command

/-- All commands in the order of their numbers. -/
def all : List Command :=
  [goIdleState, sendIfCond, sendCsd, sendCid, sendOpCond, appCommand, readOcr, crcOnOff]

/-- The number of a command. -/
def index : Command → UInt8
  | goIdleState => 0
  | sendIfCond => 8
  | sendCsd => 9
  | sendCid => 10
  | sendOpCond => 41
  | appCommand => 55
  | readOcr => 58
  | crcOnOff => 59

/-- The name of a command. -/
def name : Command → String
  | goIdleState => "GO_IDLE_STATE"
  | sendIfCond => "SEND_IF_COND"
  | sendCsd => "SEND_CSD"
  | sendCid => "SEND_CID"
  | sendOpCond => "SD_SEND_OP_COND"
  | appCommand => "APP_CMD"
  | readOcr => "READ_OCR"
  | crcOnOff => "CRC_ON_OFF"

/-- Whether a command must be announced as an application command. -/
def isAppCommand : Command → Bool
  | sendOpCond => true
  | _ => false

/-- The command of a number. -/
def ofIndex? (index : UInt8) : Option Command := all.find? fun command => command.index == index

/-- A command with its number and name. -/
def display (command : Command) : String :=
  (if command.isAppCommand then "ACMD" else "CMD") ++ Numeral.decimal command.index.toNat ++
    " (" ++ command.name ++ ")"

/-- The list leaves no command out. -/
theorem mem_all (command : Command) : command ∈ all := by
  cases command <;> decide

/-- The number of a command gives the command back. -/
theorem ofIndex?_index (command : Command) : ofIndex? command.index = some command := by
  cases command <;> rfl

end Command

end CardCrc
