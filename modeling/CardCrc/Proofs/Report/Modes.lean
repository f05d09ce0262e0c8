import CardCrc.CommandLine.Outcome
import CardCrc.Proofs.Register.Division
import CardCrc.Proofs.Report.Lines
import CardCrc.Proofs.Trace.Listing

/-!
# The forms of a checksum report

A report on a message is its checksum on one line, or the listing of all steps
with that line behind it, or an object. All of them tell the same checksum, and
the input of the object is hex text of the message. A message that cannot be
read has no report in any form.
-/

namespace CardCrc.Report

open HexText (write readBytes readDump)

/-- The lines of a message's trace: for each byte eight steps and a separator,
and then the checksum. A step shows the register of the bit-serial algorithm
after the bits so far, and the byte times a power of two. -/
structure Traces (lines : List String) (message : List UInt8) (final : String) : Prop where
  /-- There are nine lines for each byte and one more. -/
  length_eq : lines.length = 9 * message.length + 1
  /-- The last line is the checksum. -/
  last : lines[9 * message.length]? = some final
  /-- The last line of each byte is a separator. -/
  separator : ∀ index < message.length, lines[9 * index + 8]? = some "-----"
  /-- The other lines are one for each bit. -/
  step : ∀ index byte, message[index]? = some byte → ∀ position < 8,
    lines[9 * index + position]? =
      some (Numeral.decimal (Register.empty.appendBits
          ((Message.bits message).take (8 * index + position + 1))).toNat ++ " " ++
        Numeral.decimal (byte.toNat * 2 ^ (position + 1)))

/-! ## Reports that are not JSON -/

/-- The listing of a message and its checksum are its trace. -/
theorem traces_listing (message : List UInt8) (final : String) :
    Traces ((Register.empty.passages message).flatMap Passage.lines ++ [final]) message final := by
  have width : ((Register.empty.passages message).flatMap Passage.lines).length =
      9 * message.length := by
    rw [length_flatMap_uniform Passage.lines 9 Passage.length_lines, Register.length_passages]
  -- Every byte has nine lines, so a line of the listing is a line of its byte.
  have place (index position : Nat) (byte : UInt8) (present : message[index]? = some byte)
      (inside : position < 9) :
      ((Register.empty.passages message).flatMap Passage.lines ++ [final])[9 * index + position]? =
        (Passage.mk (Register.empty.append (message.take index)) index byte).lines[position]? := by
    have within : index < message.length := (List.getElem?_eq_some_iff.mp present).1
    rw [List.getElem?_append_left (by omega),
      getElem?_flatMap Passage.lines 9 Passage.length_lines _ index position inside,
      Register.passages, Register.getElem?_passagesFrom, present, Nat.zero_add]
    rfl
  refine ⟨?_, ?_, ?_, ?_⟩
  · rw [List.length_append, width, List.length_singleton]
  · rw [← width, List.getElem?_concat_length]
  · intro index within
    rw [place index 8 message[index] (List.getElem?_eq_getElem within) (by decide)]
    exact Passage.getElem?_lines_separator _
  · intro index byte present position inside
    rw [place index position byte present (by omega), Passage.getElem?_lines_step _ position inside,
      Passage.line_step _ position inside,
      Passage.after_eq_appendBits _ message index (position + 1) byte present (by omega)]
    rfl

/-- The lines of a report are the checksum, behind the listing if it is asked for. -/
theorem checksumLines_eq (message : List UInt8) (options : Options) :
    checksumLines message options =
      (if options.trace then (Register.empty.passages message).flatMap Passage.lines else []) ++
        [options.format.render (crc7 message)] := by
  by_cases traced : options.trace = true
  · have holds := Recorder.holds_watch Register.empty message
    rw [Observer.watch_eq] at holds
    rw [checksumLines, if_pos traced, if_pos traced, Observer.watch_eq, ← holds.lines_eq]
    rfl
  · rw [checksumLines, if_neg traced, if_neg traced]
    rfl

/-- There is no line break in the lines of a byte. -/
theorem unbroken_lines (passage : Passage) : ∀ line ∈ passage.lines, Unbroken line := by
  rw [Passage.lines, List.forall_mem_append, List.forall_mem_singleton]
  exact ⟨List.forall_mem_map.mpr fun step _ => unbroken_line step, by decide⟩

/-- There is no line break in the lines of a report. -/
theorem unbroken_checksumLines (message : List UInt8) (options : Options) :
    ∀ line ∈ checksumLines message options, Unbroken line := by
  rw [checksumLines_eq, List.forall_mem_append, List.forall_mem_singleton]
  refine ⟨?_, unbroken_render _ _⟩
  split
  · intro line member
    obtain ⟨passage, -, inside⟩ := List.mem_flatMap.mp member
    exact unbroken_lines passage line inside
  · exact List.forall_mem_nil _

/-- The lines of a report that is not JSON. -/
theorem lined_checksumText (message : List UInt8) (options : Options)
    (plain : options.json = false) :
    Lined (checksumText message options ++ "\n") (checksumLines message options) := by
  have unbroken := unbroken_checksumLines message options
  rw [checksumLines_eq] at unbroken
  have lined := lined_intercalate _ _ unbroken
  rw [← checksumLines_eq] at lined
  rw [checksumText, plain, if_neg Bool.false_ne_true]
  exact lined

/-! ## Reports in JSON -/

/-- The checksum without its stop bit. -/
theorem value_toNat_eq (message : List UInt8) :
    (Register.empty.append message).value.toNat = ((crc7 message).toNat - 1) / 2 := by
  rw [crc7, Register.framed_toNat]
  omega

/-- The lines of a report in JSON. -/
theorem lined_checksumObject (message : List UInt8) :
    Lined (checksumObject message ++ "\n")
      ["\x7b", "  \"input\": \"" ++ write message ++ "\",",
        "  \"length\": " ++ Numeral.decimal message.length ++ ",",
        "  \"crc\": " ++ Numeral.decimal (crc7 message).toNat ++ ",",
        "  \"crc7\": " ++ Numeral.decimal (((crc7 message).toNat - 1) / 2), "\x7d"] := by
  have unbroken : ∀ member ∈ [("input", Member.text (write message)),
      ("length", .number message.length), ("crc", .number (crc7 message).toNat)] ++
      [("crc7", .number (Register.empty.append message).value.toNat)],
      Unbroken (memberLine member) := by
    simp only [List.cons_append, List.nil_append, List.forall_mem_cons]
    refine ⟨?_, ?_, ?_, ?_, List.forall_mem_nil _⟩
    · exact unbroken_text _ (by decide) _ (unbroken_write message)
    · exact unbroken_number _ (by decide) _
    · exact unbroken_number _ (by decide) _
    · exact unbroken_number _ (by decide) _
  have quoted : memberLine ("input", .text (write message)) ++ "," =
      "  \"input\": \"" ++ write message ++ "\"," := by
    simp only [memberLine, Member.render, String.append_assoc]
    rfl
  have lined := lined_object _ _ unbroken
  simp only [List.map_cons, quoted, value_toNat_eq] at lined
  rw [checksumObject, value_toNat_eq]
  exact lined

/-! ## All forms -/

/-- A message that is read is reported on. -/
theorem checksum_of_readBytes (arguments : List String) (message : List UInt8)
    (read : readBytes arguments = .ok message) (options : Options) :
    checksum arguments options = .ok (checksumText message options ++ "\n") := by
  rw [checksum, read]
  rfl

/-- A message that is refused is not. -/
theorem checksum_of_error (arguments : List String) (fault : Fault)
    (refused : readBytes arguments = .error fault) (options : Options) :
    checksum arguments options = .error fault := by
  rw [checksum, refused]
  rfl

/-- All forms of a report on a message that is read tell its checksum. By itself
this is the only line. A trace is nine lines for each byte with the same line
behind them. In JSON, with a trace asked for or not and in any format, the object
has the checksum with its stop bit and without it, the length of the message and
an input from which the message is read back; the input holds nothing that JSON
escapes. A message that is refused is the same fault in every form, and no form
writes anything. -/
theorem checksum_forms_agree (arguments : List String) :
    (∀ message, readBytes arguments = .ok message →
      (∀ format, ∃ output,
        checksum arguments { trace := false, json := false, format } = .ok output ∧
        Lined output [format.render (crc7 message)]) ∧
      (∀ format, ∃ output lines,
        checksum arguments { trace := true, json := false, format } = .ok output ∧
        Lined output lines ∧ Traces lines message (format.render (crc7 message))) ∧
      ∀ trace format, ∃ output input,
        checksum arguments { trace, json := true, format } = .ok output ∧
        Lined output
          ["\x7b", "  \"input\": \"" ++ input ++ "\",",
            "  \"length\": " ++ Numeral.decimal message.length ++ ",",
            "  \"crc\": " ++ Numeral.decimal (crc7 message).toNat ++ ",",
            "  \"crc7\": " ++ Numeral.decimal (((crc7 message).toNat - 1) / 2), "\x7d"] ∧
        (∀ character ∈ input.toList, character = ' ' ∨ HexText.isHexDigit character = true) ∧
        readDump input = .ok message) ∧
    ∀ fault, readBytes arguments = .error fault → ∀ options,
      checksum arguments options = .error fault ∧
      (CommandLine.Outcome.ofReport (checksum arguments options)).output = "" := by
  constructor
  · intro message read
    refine ⟨fun format => ?_, fun format => ?_, fun trace format => ?_⟩
    · have lined := lined_checksumText message { trace := false, json := false, format } rfl
      rw [checksumLines_eq] at lined
      exact ⟨_, checksum_of_readBytes arguments message read _, lined⟩
    · have lined := lined_checksumText message { trace := true, json := false, format } rfl
      rw [checksumLines_eq] at lined
      exact ⟨_, _, checksum_of_readBytes arguments message read _, lined,
        traces_listing message (format.render (crc7 message))⟩
    · exact ⟨_, write message, checksum_of_readBytes arguments message read _,
        lined_checksumObject message, HexText.eq_space_or_isHexDigit_of_mem_write message,
        HexText.readDump_write message⟩
  · intro fault refused options
    have reported := checksum_of_error arguments fault refused options
    refine ⟨reported, ?_⟩
    rw [reported]
    rfl

/-- A message of two bytes in all three forms, and one whose second byte is
refused. The tenth bit of the first leaves 185 in the register. -/
theorem checksum_forms_agree_two_bytes :
    readBytes ["0x48", "-0"] = .ok [0x48, 0] ∧
      (∃ output, checksum ["0x48", "-0"] { format := .hex } = .ok output ∧
        Lined output ["0x6b"]) ∧
      (∃ output lines, checksum ["0x48", "-0"] { trace := true } = .ok output ∧
        Lined output lines ∧ lines.length = 19 ∧ lines[8]? = some "-----" ∧
        lines[10]? = some "185 0" ∧ lines[18]? = some "107") ∧
      (∃ output, checksum ["0x48", "-0"] { json := true, format := .binary } = .ok output ∧
        ∃ input, Lined output ["\x7b", "  \"input\": \"" ++ input ++ "\",",
          "  \"length\": 2,", "  \"crc\": 107,", "  \"crc7\": 53", "\x7d"] ∧
          readDump input = .ok [0x48, 0]) ∧
      readBytes ["1", "100"] = .error (.outOfRange 1 256 255) ∧
      checksum ["1", "100"] { trace := true } = .error (.outOfRange 1 256 255) := by
  have read : readBytes ["0x48", "-0"] = .ok [0x48, 0] := by cbv
  have refused : readBytes ["1", "100"] = .error (.outOfRange 1 256 255) := by cbv
  have sum : crc7 [0x48, 0] = 0x6b := by decide +kernel
  have tenth : Register.empty.appendBits ((Message.bits [0x48, 0]).take 10) = 185 := by
    decide +kernel
  obtain ⟨lone, traced, objects⟩ := (checksum_forms_agree ["0x48", "-0"]).1 _ read
  obtain ⟨output, written, lined⟩ := lone .hex
  obtain ⟨listing, lines, listed, linesOf, traces⟩ := traced .decimal
  obtain ⟨object, input, shown, members, -, readBack⟩ := objects false .binary
  have step := traces.step 1 0 rfl 1 (by decide)
  have last := traces.last
  rw [sum] at lined last members
  rw [tenth] at step
  refine ⟨read, ⟨output, written, lined⟩, ⟨listing, lines, listed, linesOf, traces.length_eq,
    traces.separator 0 (by decide), step, last⟩, ⟨object, shown, input, members, readBack⟩, refused,
    ((checksum_forms_agree ["1", "100"]).2 _ refused _).1⟩

end CardCrc.Report
