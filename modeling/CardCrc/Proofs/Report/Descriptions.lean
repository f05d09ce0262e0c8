import CardCrc.Proofs.Frame.Arguments
import CardCrc.Proofs.Frame.Resolution
import CardCrc.Proofs.Report.Exchange

/-!
# Frames as they are described

A frame in words is its command, the name of this in brackets if it is known, its
argument and its checksum. Each of these parts is written in a form that is read:
the command as the tag and number that one may ask for, the argument as a numeral
behind a marker, the checksum as a hex integer.

A part is read by itself, whatever the others are, and the parts are found again in
a description. The command has no space in it, and the values behind it have a
fixed width. So a description is of one frame only.
-/

namespace CardCrc

namespace Frame

/-- The tag and the number of the command. -/
def commandText (frame : Frame) : String :=
  (if Report.needsAnnouncement frame then "ACMD" else "CMD") ++
    Numeral.decimal frame.index.toNat

/-- The name of the command in brackets, or nothing. -/
def nameText (frame : Frame) : String :=
  match frame.command? with
  | some command => " (" ++ command.name ++ ")"
  | none => ""

/-- The argument with all its digits. -/
def argumentText (frame : Frame) : String :=
  "0x" ++ String.ofList (Numeral.fixed 16 8 frame.argument.toNat)

/-- The checksum with both its digits. -/
def checksumText (frame : Frame) : String := "0x" ++ Numeral.hexByte frame.checksum

/-- A description is put together from parts that are read one by one. -/
structure Described (frame : Frame) : Prop where
  /-- These are the parts. -/
  display_eq : frame.display = frame.commandText ++ frame.nameText ++
    " arg=" ++ frame.argumentText ++ " crc=" ++ frame.checksumText
  /-- The argument is read back. -/
  readArgument_eq : readArgument frame.argumentText = .ok frame.argument
  /-- So is the checksum. -/
  readByte_eq : HexText.readByte frame.checksumText = .ok frame.checksum
  /-- With this argument the command asks for the frame. -/
  ofText_eq : ofText frame.commandText frame.argument = .ok frame
  /-- So does the name of a known command. -/
  ofText_name_eq : ∀ command, frame.command? = some command →
    ofText command.name frame.argument = .ok frame

/-- The command and its name are in front of the values. -/
theorem display_eq_append (frame : Frame) :
    frame.display = (frame.commandText ++ frame.nameText) ++
      (" arg=" ++ (frame.argumentText ++ (" crc=" ++ frame.checksumText))) := by
  have argument : " arg=0x" = " arg=" ++ "0x" := rfl
  have checksum : " crc=0x" = " crc=" ++ "0x" := rfl
  rw [display, commandText, nameText, argumentText, checksumText, argument, checksum,
    Report.needsAnnouncement]
  cases known : frame.command? with
  | none =>
    simp only [Option.any_none, Bool.false_eq_true, if_false, String.append_empty,
      String.append_assoc]
  | some command =>
    have own : command.index = frame.index := Command.index_of_ofIndex? _ command known
    simp only [Command.display, own, Option.any_some, String.append_assoc]

/-! ## Commands -/

/-- The command of a frame is a tag and the number of the frame. -/
theorem numbered_commandText (frame : Frame) :
    Command.Numbered Command.numberTags frame.commandText.toList frame.index.toNat := by
  have tagged : (if Report.needsAnnouncement frame then "ACMD" else "CMD").toList ∈
      Command.numberTags := by
    cases Report.needsAnnouncement frame <;> decide
  refine ⟨_, tagged, _, Numeral.spells_decimal frame.index.toNat, ?_, ?_⟩
  · exact Nat.le_of_lt_succ frame.index.toNat_lt
  · rw [commandText, String.toList_append, Numeral.decimal, String.toList_ofList]

/-- With its own argument the command of a frame asks for this frame. -/
theorem ofText_commandText (frame : Frame) :
    ofText frame.commandText frame.argument = .ok frame := by
  have numbered := frame.numbered_commandText.map Char.toUpper (by decide)
  rw [ofText_of_numbered (Text.trimmed_self frame.numbered_commandText.not_isBlank) frame.argument _
    numbered, UInt8.ofNat_toNat, ofIndex_self]

/-- So does the name of the command, if it is known. -/
theorem ofText_name (frame : Frame) (command : Command) (known : frame.command? = some command) :
    ofText command.name frame.argument = .ok frame := by
  have own : command.index = frame.index := Command.index_of_ofIndex? _ command known
  simp only [ofText, Command.ofText?_name, ← ofIndex_index, own, ofIndex_self]

/-! ## Values -/

/-- The characters of an argument. -/
theorem toList_argumentText (frame : Frame) : frame.argumentText.toList =
    '0' :: 'x' :: Numeral.fixed 16 8 frame.argument.toNat := by
  rw [argumentText, String.toList_append]
  exact congrArg (['0', 'x'] ++ ·) String.toList_ofList

/-- The argument of a frame is read back. -/
theorem readArgument_argumentText (frame : Frame) :
    readArgument frame.argumentText = .ok frame.argument := by
  have noBlank : Numeral.hexDigits.all (!Text.isBlank ·) = true := by decide
  have blankless : ∀ character ∈ frame.argumentText.toList, Text.isBlank character = false := by
    rw [toList_argumentText, List.forall_mem_cons, List.forall_mem_cons]
    refine ⟨by decide, by decide, fun character member => ?_⟩
    rw [← Bool.not_eq_true']
    exact Numeral.fixed_of_all noBlank 8 _ character member
  have noUnderscore : Numeral.hexDigits.all (fun digit => decide (digit ≠ '_')) = true := by decide
  have based := Based.hex 'x' (Or.inl rfl) (Numeral.fixed 16 8 frame.argument.toNat)
  rw [List.filter_eq_self.mpr (Numeral.fixed_of_all noUnderscore 8 _), ← toList_argumentText]
    at based
  apply based.readArgument_of_spells (Text.trimmed_self blankless)
  exact Numeral.spells_fixed 16 8 _ (by decide) (by decide) (by decide) frame.argument.toNat_lt

/-- The checksum of a frame is read back. -/
theorem readByte_checksumText (frame : Frame) :
    HexText.readByte frame.checksumText = .ok frame.checksum := by
  have accepted := HexText.readByte_of_paired ['0', 'x'] (by decide)
    (HexText.paired_hexByte frame.checksum)
  rw [String.ofList_append, String.ofList_toList] at accepted
  exact accepted

/-! ## Finding the parts -/

/-- The first space in a description is behind the command. -/
theorem exists_display_eq (frame : Frame) :
    ∃ rest, frame.display.toList = frame.commandText.toList ++ ' ' :: rest := by
  rw [display_eq_append, String.toList_append, String.toList_append, nameText]
  cases frame.command? with
  | none => exact ⟨_, by rw [List.append_assoc, String.toList_append]; rfl⟩
  | some command =>
    exact ⟨_, by rw [List.append_assoc, String.toList_append, String.toList_append]; rfl⟩

/-- The command is what is in front of the first space. -/
theorem takeWhile_display (frame : Frame) :
    frame.display.toList.takeWhile (· ≠ ' ') = frame.commandText.toList := by
  obtain ⟨rest, split⟩ := frame.exists_display_eq
  have spaceless : ∀ character ∈ frame.commandText.toList, decide (character ≠ ' ') = true := by
    intro character member
    have noBlank := frame.numbered_commandText.not_isBlank character member
    apply decide_eq_true
    rintro rfl
    exact absurd noBlank (by decide)
  rw [split, List.takeWhile_append_of_pos spaceless, List.takeWhile_cons_of_neg (by decide),
    List.append_nil]

/-- All arguments are equally long. -/
theorem length_argumentText (frame : Frame) : frame.argumentText.toList.length = 10 := by
  rw [toList_argumentText, List.length_cons, List.length_cons, Numeral.length_fixed]

/-- So are all checksums. -/
theorem length_checksumText (frame : Frame) : frame.checksumText.toList.length = 4 := by
  have digits : (Numeral.hexByte frame.checksum).toList.length = 2 := by
    rw [Numeral.hexByte, String.toList_ofList, Numeral.length_fixed]
  rw [checksumText, String.toList_append, List.length_append, digits]
  rfl

/-- Descriptions that are the same have the same argument in them, at a fixed
distance from the end. -/
theorem argumentText_eq_of_display_eq (frame other : Frame)
    (same : frame.display = other.display) : frame.argumentText = other.argumentText := by
  have characters := congrArg String.toList same
  simp only [display_eq_append, String.toList_append] at characters
  have values := List.append_inj_right' characters (by
    simp only [List.length_append, length_argumentText, length_checksumText])
  have behind := List.append_cancel_left values
  have argument := List.append_inj_left behind (by
    rw [length_argumentText, length_argumentText])
  exact String.toList_inj.mp argument

/-- A description is of one frame only: it has the command and the argument of the
frame in it, and from these the frame is read back. -/
theorem display_injective (frame other : Frame) (same : frame.display = other.display) :
    frame = other := by
  have command : frame.commandText = other.commandText := by
    rw [← String.toList_inj, ← takeWhile_display, ← takeWhile_display, same]
  have text := argumentText_eq_of_display_eq frame other same
  have argument : frame.argument = other.argument := by
    have read := frame.readArgument_argumentText
    rw [text, other.readArgument_argumentText] at read
    exact (Except.ok.inj read).symm
  have asked := frame.ofText_commandText
  rw [command, argument, other.ofText_commandText] at asked
  exact (Except.ok.inj asked).symm

/-- Every part of a description is read back. -/
theorem described (frame : Frame) : frame.Described where
  display_eq := by
    rw [display_eq_append]
    simp only [String.append_assoc]
  readArgument_eq := frame.readArgument_argumentText
  readByte_eq := frame.readByte_checksumText
  ofText_eq := frame.ofText_commandText
  ofText_name_eq := frame.ofText_name

/-- The command and the argument of a frame ask for this frame. -/
theorem ofRequest_parts (frame : Frame) :
    ofRequest frame.commandText frame.argumentText = .ok frame := by
  simp only [ofRequest, readArgument_argumentText, bind, Except.bind, ofText_commandText]

end Frame

namespace Report

/-- The parts of a description are read back, each by itself. The command and the
argument in it ask for the frame, and the report that is built for these two has
the same description again, behind a reminder at most. A description is of one
frame only. -/
theorem descriptions_read_back :
    (∀ frame : Frame, frame.Described ∧ ∃ output notes,
      build frame.commandText frame.argumentText false = .ok output ∧
      (notes = [] ∨ notes = [reminder]) ∧
      Lined output (notes ++
        ["Command: " ++ frame.display, "Frame: " ++ HexText.write frame.toBytes])) ∧
    ∀ frame other : Frame, frame.display = other.display ↔ frame = other := by
  refine ⟨fun frame => ⟨frame.described, ?_⟩, fun frame other => ⟨?_, ?_⟩⟩
  · obtain ⟨notes, known, lined⟩ := lined_frameText frame
    exact ⟨_, notes, build_of_ofRequest _ _ frame frame.ofRequest_parts false, known, lined⟩
  · exact frame.display_injective other
  · rintro rfl
    rfl

/-- A command that must be announced, by its tag and number and by its name. -/
theorem descriptions_read_back_announced :
    ∃ frame : Frame, frame.display = "ACMD41 (SD_SEND_OP_COND) arg=0x40000000 crc=0x77" ∧
      Frame.ofText "ACMD41" frame.argument = .ok frame ∧
      Frame.ofText "SD_SEND_OP_COND" frame.argument = .ok frame ∧
      Frame.readArgument "0x40000000" = .ok frame.argument ∧
      HexText.readByte "0x77" = .ok frame.checksum := by
  let frame : Frame := Frame.ofCommand .sendOpCond 0x40000000
  have known : frame.command? = some .sendOpCond := Command.ofIndex?_index .sendOpCond
  obtain ⟨display, argument, checksum, tagged, named⟩ := (descriptions_read_back.1 frame).1
  have commandText : frame.commandText = "ACMD41" := by decide +kernel
  have nameText : frame.nameText = " (SD_SEND_OP_COND)" := by decide +kernel
  have argumentText : frame.argumentText = "0x40000000" := by decide +kernel
  have checksumText : frame.checksumText = "0x77" := by decide +kernel
  rw [commandText, nameText, argumentText, checksumText] at display
  rw [commandText] at tagged
  rw [argumentText] at argument
  rw [checksumText] at checksum
  exact ⟨frame, display, tagged, named .sendOpCond known, argument, checksum⟩

end Report

end CardCrc
