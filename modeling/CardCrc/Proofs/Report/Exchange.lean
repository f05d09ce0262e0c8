import CardCrc.Proofs.Frame.Decoding
import CardCrc.Proofs.Report.Modes

/-!
# Frames built and checked

A frame that is built is shown in words and as an object, and both show its
bytes. Given back to be checked, these bytes are accepted as the same frame,
whether they are one argument, one argument each, or packed together. The
checksum of the first five of them is the sixth.
-/

namespace CardCrc.Report

open HexText (write pieces packed readDump readByte)

/-- The reminder in front of a frame that must be announced. -/
def reminder : String := "Note: send CMD55 (APP_CMD) first"

/-- The two reports on a built frame show its bytes and describe it in words. -/
structure Shows (plain object hex display : String) : Prop where
  /-- The last two lines of the report in words are the description and the
  bytes. There is at most a reminder in front of them. -/
  words : ∃ notes, (notes = [] ∨ notes = [reminder]) ∧
    Lined plain (notes ++ ["Command: " ++ display, "Frame: " ++ hex])
  /-- The last member of the object is the bytes. -/
  members : ∃ front, Lined object (front ++ ["  \"bytes\": \"" ++ hex ++ "\"", "\x7d"])

/-! ## Building -/

/-- A frame asked for is reported on. -/
theorem build_of_ofRequest (command argument : String) (frame : Frame)
    (asked : Frame.ofRequest command argument = .ok frame) (json : Bool) :
    build command argument json =
      .ok (if json then frameObject frame ++ "\n" else frameText frame) := by
  rw [build, asked]
  rfl

/-- A report is on a frame asked for. -/
theorem exists_ofRequest_of_build (command argument : String) (json : Bool) (output : String)
    (built : build command argument json = .ok output) :
    ∃ frame, Frame.ofRequest command argument = .ok frame := by
  cases asked : Frame.ofRequest command argument with
  | ok frame => exact ⟨frame, rfl⟩
  | error fault =>
    rw [build, asked] at built
    exact nomatch built

/-- The lines of a frame in words. -/
theorem lined_frameText (frame : Frame) :
    ∃ notes, (notes = [] ∨ notes = [reminder]) ∧
      Lined (frameText frame)
        (notes ++ ["Command: " ++ frame.display, "Frame: " ++ write frame.toBytes]) := by
  have description : Lined ("Command: " ++ frame.display ++ "\n") ["Command: " ++ frame.display] :=
    Unbroken.lined ((unbroken_append _ _).mpr ⟨by decide, unbroken_frame frame⟩)
  have bytes : Lined ("Frame: " ++ write frame.toBytes ++ "\n")
      ["Frame: " ++ write frame.toBytes] :=
    Unbroken.lined ((unbroken_append _ _).mpr ⟨by decide, unbroken_write frame.toBytes⟩)
  have both := description.append bytes
  by_cases announced : needsAnnouncement frame = true
  · have note : Lined (reminder ++ "\n") [reminder] := Unbroken.lined (by decide)
    refine ⟨[reminder], Or.inr rfl, ?_⟩
    have whole := note.append both
    rw [frameText, if_pos announced]
    simp only [String.append_assoc] at whole ⊢
    exact whole
  · refine ⟨[], Or.inl rfl, ?_⟩
    rw [frameText, if_neg announced, String.empty_append]
    simp only [String.append_assoc] at both ⊢
    exact both

/-- The members of a frame in front of its bytes. -/
def frontMembers (frame : Frame) : List (String × Member) :=
  (match frame.command? with
    | some command => [("command", .text command.name)]
    | none => []) ++
    [("index", .number frame.index.toNat), ("argument", .number frame.argument.toNat),
      ("crc", .number frame.checksum.toNat)]

/-- The bytes are the last member of a frame. -/
theorem frameObject_eq (frame : Frame) :
    frameObject frame =
      object (frontMembers frame ++ [("bytes", .text (write frame.toBytes))]) := by
  rw [frontMembers, List.append_assoc]
  rfl

/-- There is no line break in the members of a frame. -/
theorem unbroken_frontMembers (frame : Frame) :
    ∀ member ∈ frontMembers frame, Unbroken (memberLine member) := by
  simp only [frontMembers, List.forall_mem_append, List.forall_mem_cons]
  refine ⟨?_, ?_, ?_, ?_, List.forall_mem_nil _⟩
  · split
    · exact List.forall_mem_singleton.mpr (unbroken_text _ (by decide) _ (unbroken_name _))
    · exact List.forall_mem_nil _
  · exact unbroken_number _ (by decide) _
  · exact unbroken_number _ (by decide) _
  · exact unbroken_number _ (by decide) _

/-- The last lines of a frame as an object. -/
theorem lined_frameObject (frame : Frame) :
    ∃ front, Lined (frameObject frame ++ "\n")
      (front ++ ["  \"bytes\": \"" ++ write frame.toBytes ++ "\"", "\x7d"]) := by
  have bytes : Unbroken (memberLine ("bytes", .text (write frame.toBytes))) :=
    unbroken_text _ (by decide) _ (unbroken_write _)
  have lined := lined_object (frontMembers frame) _
    (List.forall_mem_append.mpr
      ⟨unbroken_frontMembers frame, List.forall_mem_singleton.mpr bytes⟩)
  rw [← frameObject_eq] at lined
  exact ⟨_, lined⟩

/-- A frame asked for is shown by both reports. -/
theorem shows_frame (frame : Frame) :
    Shows (frameText frame) (frameObject frame ++ "\n") (write frame.toBytes) frame.display where
  words := lined_frameText frame
  members := lined_frameObject frame

/-! ## Checking -/

/-- A frame whose bytes are read is accepted and described. -/
theorem verify_of_readDump (arguments : List String) (frame : Frame)
    (read : readDump (" ".intercalate arguments) = .ok frame.toBytes) (json : Bool) :
    verify arguments json =
      .ok (if json then frameObject frame ++ "\n" else "OK: " ++ frame.display ++ "\n") := by
  rw [verify, read]
  change (Frame.ofBytes frame.toBytes >>= _) = _
  rw [Frame.ofBytes_toBytes]
  rfl

/-- Written bytes are read back from one argument, from one argument each and
from one argument without spaces. -/
theorem readDump_of_written (bytes : List UInt8) (arguments : List String)
    (given : arguments ∈ [[write bytes], pieces (write bytes), [packed (write bytes)]]) :
    readDump (" ".intercalate arguments) = .ok bytes := by
  simp only [List.mem_cons, List.not_mem_nil, or_false] at given
  rcases given with rfl | rfl | rfl
  · rw [String.intercalate_singleton, HexText.readDump_write]
  · rw [HexText.pieces_write]
    exact HexText.readDump_write bytes
  · rw [String.intercalate_singleton, HexText.readDump_packed_write]

/-- The checksum of the first five bytes of a frame is reported as the sixth. -/
theorem checksum_of_header (frame : Frame) :
    checksum ((pieces (write frame.toBytes)).take 5) {} =
      .ok (Numeral.decimal frame.checksum.toNat ++ "\n") := by
  have first : (pieces (write frame.toBytes)).take 5 = frame.header.map Numeral.hexByte := by
    rw [HexText.pieces_write, Frame.toBytes, List.map_append]
    rfl
  have text : checksumText frame.header {} = Numeral.decimal frame.checksum.toNat := by
    rw [checksumText, if_neg Bool.false_ne_true, checksumLines_eq, if_neg Bool.false_ne_true,
      List.nil_append, String.intercalate_singleton]
    rfl
  rw [first, checksum_of_readBytes _ _ (HexText.readBytes_map_hexByte frame.header), text]

/-! ## There and back -/

/-- A frame that is built in either form is built in both. They show the same
bytes in hex and describe the frame. Checked as one argument, as six arguments or
as one argument without spaces, these bytes are accepted with the same
description and as the same object. The checksum of the first five bytes is
reported as the sixth. -/
theorem built_frame_accepted (command argument : String) (json : Bool) (output : String)
    (built : build command argument json = .ok output) :
    ∃ plain object hex display,
      build command argument false = .ok plain ∧ build command argument true = .ok object ∧
      Shows plain object hex display ∧
      (pieces hex).length = 6 ∧
      (∀ arguments ∈ [[hex], pieces hex, [packed hex]],
        verify arguments false = .ok ("OK: " ++ display ++ "\n") ∧
        verify arguments true = .ok object) ∧
      ∃ sixth byte, (pieces hex)[5]? = some sixth ∧ readByte sixth = .ok byte ∧
        checksum ((pieces hex).take 5) {} = .ok (Numeral.decimal byte.toNat ++ "\n") := by
  obtain ⟨frame, asked⟩ := exists_ofRequest_of_build command argument json output built
  have accepted : ∀ arguments ∈
      [[write frame.toBytes], pieces (write frame.toBytes), [packed (write frame.toBytes)]],
      ∀ json, verify arguments json =
        .ok (if json then frameObject frame ++ "\n" else "OK: " ++ frame.display ++ "\n") :=
    fun arguments given => verify_of_readDump arguments frame
      (readDump_of_written frame.toBytes arguments given)
  have sixth : (pieces (write frame.toBytes))[5]? = some (Numeral.hexByte frame.checksum) := by
    rw [HexText.pieces_write]
    rfl
  refine ⟨frameText frame, frameObject frame ++ "\n", write frame.toBytes, frame.display,
    build_of_ofRequest command argument frame asked false,
    build_of_ofRequest command argument frame asked true, shows_frame frame, ?_, ?_,
    Numeral.hexByte frame.checksum, frame.checksum, sixth,
    HexText.readByte_hexByte frame.checksum, checksum_of_header frame⟩
  · rw [HexText.pieces_write, List.length_map]
    rfl
  · exact fun arguments given => ⟨accepted arguments given false, accepted arguments given true⟩

/-- A command that must be announced, with an underscore in its argument. Its
bytes are accepted when they are packed, and the first five give the sixth. -/
theorem built_frame_accepted_announced :
    build " acmd41" "0x4000_0000" false =
        .ok ("Note: send CMD55 (APP_CMD) first\n" ++
          "Command: ACMD41 (SD_SEND_OP_COND) arg=0x40000000 crc=0x77\n" ++
          "Frame: 69 40 00 00 00 77\n") ∧
      verify ["694000000077"] false =
        .ok "OK: ACMD41 (SD_SEND_OP_COND) arg=0x40000000 crc=0x77\n" ∧
      checksum ["69", "40", "00", "00", "00"] {} = .ok "119\n" := by
  have built : build " acmd41" "0x4000_0000" false =
      .ok ("Note: send CMD55 (APP_CMD) first\n" ++
        "Command: ACMD41 (SD_SEND_OP_COND) arg=0x40000000 crc=0x77\n" ++
        "Frame: 69 40 00 00 00 77\n") := by decide +kernel
  obtain ⟨plain, object, hex, display, words, -, ⟨⟨notes, -, lined⟩, -⟩, -, accepted,
    sixth, byte, found, read, summed⟩ :=
    built_frame_accepted " acmd41" "0x4000_0000" false _ built
  have known : Lined plain
      ["Note: send CMD55 (APP_CMD) first",
        "Command: ACMD41 (SD_SEND_OP_COND) arg=0x40000000 crc=0x77",
        "Frame: 69 40 00 00 00 77"] :=
    ⟨(Except.ok.inj (built.symm.trans words)).symm, by decide⟩
  have same : notes ++ ["Command: " ++ display, "Frame: " ++ hex] =
      ["Note: send CMD55 (APP_CMD) first"] ++
        ["Command: " ++ "ACMD41 (SD_SEND_OP_COND) arg=0x40000000 crc=0x77",
          "Frame: " ++ "69 40 00 00 00 77"] := lined.unique known
  have lastLines := List.append_inj_right' same rfl
  obtain ⟨displayed, rest⟩ := List.cons.inj lastLines
  have shown := (List.cons.inj rest).1
  rw [String.append_right_inj] at displayed shown
  subst displayed shown
  have side : packed "69 40 00 00 00 77" = "694000000077" := by decide +kernel
  have apart : pieces "69 40 00 00 00 77" = ["69", "40", "00", "00", "00", "77"] := by
    decide +kernel
  have last : readByte "77" = .ok 0x77 := by decide +kernel
  rw [side] at accepted
  rw [apart] at found summed
  rw [← Option.some.inj found, last] at read
  rw [← Except.ok.inj read] at summed
  exact ⟨built, (accepted ["694000000077"] (by simp)).1, summed⟩

end CardCrc.Report
