import CardCrc.Frame.Request
import CardCrc.Proofs.Command.Words

/-!
# Command texts and their frames

A text that stands for a number asks for the frame of this number, and if a known
command has the number, the text stands for this command. The two are found on
different ways: one looks at the text in capitals and with underscores, the other
one in small letters and with its hyphens. They find the same numbers, so a text
that stands for no known command is not taken for another number later.

A text that stands for no number is looked up as a name, and if no command has
this name, it is refused and named whole.
-/

namespace CardCrc.Frame

open Command (Numbered Named numberTags underscored)

/-- A frame is that of its own number and argument. -/
theorem ofIndex_self (frame : Frame) : ofIndex frame.index frame.argument = .ok frame := by
  rw [ofIndex, dif_pos frame.index_le]

/-- The frame of a known command is that of its number. -/
theorem ofIndex_index (command : Command) (argument : UInt32) :
    ofIndex command.index argument = .ok (ofCommand command argument) :=
  (ofCommand command argument).ofIndex_self

/-- The tags in small letters are told apart. -/
theorem apart_smallTags : Command.Apart smallTags := ⟨by decide, by decide, by decide⟩

/-- A second change of case undoes the first one. Outside ASCII neither changes
anything, and the characters of ASCII can be looked at one by one. -/
theorem change_case_twice (character : Char) :
    character.toLower.toUpper = character.toUpper ∧
      character.toUpper.toLower = character.toLower := by
  by_cases ascii : character.toNat < 128
  · have each : ∀ code < 128, (Char.ofNat code).toLower.toUpper = (Char.ofNat code).toUpper ∧
        (Char.ofNat code).toUpper.toLower = (Char.ofNat code).toLower := by decide
    rw [← Char.ofNat_toNat character]
    exact each character.toNat ascii
  · have small : character.toLower = character := by
      apply dif_neg
      rintro ⟨-, inside⟩
      have bound : character.toNat ≤ 90 := inside
      omega
    have capital : character.toUpper = character := by
      apply dif_neg
      rintro ⟨-, inside⟩
      have bound : character.toNat ≤ 122 := inside
      omega
    rw [small, capital]
    exact ⟨rfl, small⟩

/-- A text stands for the same numbers in small letters as in capitals. -/
theorem numbered_smallLetters_iff (core : List Char) (index : Nat) :
    Numbered ([] :: smallTags) (core.map Char.toLower) index ↔
      Numbered numberTags (core.map Char.toUpper) index := by
  constructor
  · intro numbered
    have raised := numbered.map Char.toUpper (by decide)
    have same : Char.toUpper ∘ Char.toLower = Char.toUpper :=
      funext fun character => (change_case_twice character).1
    rw [List.map_map, same] at raised
    exact raised
  · intro numbered
    have lowered := numbered.map Char.toLower (by decide)
    have same : Char.toLower ∘ Char.toUpper = Char.toLower :=
      funext fun character => (change_case_twice character).2
    rw [List.map_map, same] at lowered
    exact lowered

section Texts

variable {text : String} {core : List Char} (trimmed : Text.Trimmed text.toList core)

include trimmed

/-- The second reading finds the number that a text stands for in capitals. -/
theorem number?_smallLetters_eq_some_iff (index : UInt8) :
    Command.number? smallTags (smallLetters text) = some index ↔
      Numbered numberTags (core.map Char.toUpper) index.toNat := by
  rw [smallLetters, ← trimmed.eq_trim, apart_smallTags.number?_eq_some_iff,
    numbered_smallLetters_iff]

/-- A text that stands for a number asks for the frame of this number, whether or
not the number has a known command. -/
theorem ofText_of_numbered (argument : UInt32) (index : Nat)
    (numbered : Numbered numberTags (core.map Char.toUpper) index) :
    ofText text argument = ofIndex (UInt8.ofNat index) argument := by
  have found := Command.ofText?_of_numbered trimmed index numbered
  cases known : Command.ofIndex? (UInt8.ofNat index) with
  | some command =>
    have own : command.index = UInt8.ofNat index := Command.index_of_ofIndex? _ command known
    rw [known] at found
    simp only [ofText, found]
    rw [← own, ofIndex_index]
  | none =>
    have read : Command.number? smallTags (smallLetters text) = some (UInt8.ofNat index) := by
      rw [number?_smallLetters_eq_some_iff trimmed, numbered.toNat_ofNat]
      exact numbered
    rw [known] at found
    simp only [ofText, found, read]

/-- A text that stands for no number and for no known command is refused and named
whole. -/
theorem ofText_of_neither (argument : UInt32)
    (noNumber : ∀ index, ¬ Numbered numberTags (core.map Char.toUpper) index)
    (noCommand : Command.ofText? text = none) :
    ofText text argument = .error (.malformed text "unknown command") := by
  have unread : Command.number? smallTags (smallLetters text) = none := by
    rw [Option.eq_none_iff_forall_ne_some]
    intro index read
    exact noNumber _ ((number?_smallLetters_eq_some_iff trimmed index).mp read)
  simp only [ofText, noCommand, unread]
  rfl

end Texts

/-- A number of six bits has a frame. -/
theorem ofIndex_of_le (index : UInt8) (argument : UInt32) (small : index.toNat ≤ 63) :
    ∃ frame, ofIndex index argument = .ok frame ∧ frame.index = index ∧
      frame.argument = argument := by
  let frame : Frame := { index, argument, index_le := UInt8.le_iff_toNat_le.mpr small }
  exact ⟨frame, frame.ofIndex_self, rfl, rfl⟩

/-- A byte of more bits has none. -/
theorem ofIndex_of_lt (index : UInt8) (argument : UInt32) (large : 63 < index.toNat) :
    ofIndex index argument = .error (.outOfRange 0 index.toNat 63) := by
  have moreBits : ¬ index ≤ largestIndex := by
    rw [UInt8.le_iff_toNat_le]
    exact Nat.not_le_of_lt large
  rw [ofIndex, dif_neg moreBits]
  rfl

/-- Every text has a core between blanks, which is looked at in capitals. If this
is a tag or none and a numeral of a byte, the text stands for the known command of
the number, if there is one, and asks for the frame of the number, which exists
as long as the number has six bits.

If it is no such numeral, but with underscores for its hyphens the name of a
command or what follows `SD_` in one, the text stands for this command and asks
for its frame. If it is neither, the text stands for no command and is refused
with its blanks. -/
theorem command_texts_resolved :
    (∀ text : String, ∃ core, Text.Trimmed text.toList core) ∧
    ∀ (text : String) (core : List Char) (argument : UInt32), Text.Trimmed text.toList core →
      (∀ index, Numbered numberTags (core.map Char.toUpper) index →
        Command.ofText? text = Command.ofIndex? (UInt8.ofNat index) ∧
        (index ≤ 63 → ∃ frame, ofText text argument = .ok frame ∧
          frame.index.toNat = index ∧ frame.argument = argument) ∧
        (64 ≤ index → ofText text argument = .error (.outOfRange 0 index 63))) ∧
      ((∀ index, ¬ Numbered numberTags (core.map Char.toUpper) index) →
        (∀ command, Named ((core.map Char.toUpper).map underscored) command →
          Command.ofText? text = some command ∧
          ofText text argument = .ok (ofCommand command argument)) ∧
        ((∀ command, ¬ Named ((core.map Char.toUpper).map underscored) command) →
          Command.ofText? text = none ∧
          ofText text argument = .error (.malformed text "unknown command"))) := by
  refine ⟨fun text => ⟨_, Text.trimmed_trim text.toList⟩, ?_⟩
  intro text core argument trimmed
  refine ⟨fun index numbered => ?_, fun noNumber => ⟨fun command named => ?_, fun noName => ?_⟩⟩
  · have asked := ofText_of_numbered trimmed argument index numbered
    have own : (UInt8.ofNat index).toNat = index := numbered.toNat_ofNat
    refine ⟨Command.ofText?_of_numbered trimmed index numbered, fun small => ?_, fun large => ?_⟩
    · obtain ⟨frame, found, number, kept⟩ :=
        ofIndex_of_le (UInt8.ofNat index) argument (own.symm ▸ small)
      exact ⟨frame, asked.trans found, by rw [number, own], kept⟩
    · rw [asked, ofIndex_of_lt (UInt8.ofNat index) argument (own.symm ▸ large), own]
  · have found := Command.ofText?_of_named trimmed noNumber command named
    exact ⟨found, by simp only [ofText, found]⟩
  · have unknown := Command.ofText?_of_neither trimmed noNumber noName
    exact ⟨unknown, ofText_of_neither trimmed argument noNumber unknown⟩

/-- A tagged number between blanks stands for its command in any case. A number of
seven bits is out of range, a shortened name with hyphens is found, and a hyphen
in front of a number makes it neither a number nor a name. -/
theorem command_texts_resolved_four_ways :
    Text.Trimmed " aCmd+041\n".toList "aCmd+041".toList ∧
      Numbered numberTags "ACMD+041".toList 41 ∧
      Command.ofText? " aCmd+041\n" = Command.ofIndex? 41 ∧
      (∃ frame, ofText " aCmd+041\n" 7 = .ok frame ∧ frame.index.toNat = 41 ∧
        frame.argument = 7) ∧
      Numbered numberTags "CMD64".toList 64 ∧
      ofText "cmd64" 0 = .error (.outOfRange 0 64 63) ∧
      Named "SEND_OP_COND".toList .sendOpCond ∧
      ofText "send-op-cond" 0 = .ok (ofCommand .sendOpCond 0) ∧
      (∀ command, ¬ Named "CMD_8".toList command) ∧
      ofText "cmd-8" 0 = .error (.malformed "cmd-8" "unknown command") := by
  have resolved := command_texts_resolved.2
  have between : Text.Trimmed " aCmd+041\n".toList "aCmd+041".toList := by
    have core : Text.trim " aCmd+041\n".toList = "aCmd+041".toList := by decide
    exact core ▸ Text.trimmed_trim _
  have whole : Text.Trimmed "cmd64".toList "cmd64".toList := Text.trimmed_trim "cmd64".toList
  have name : Text.Trimmed "send-op-cond".toList "send-op-cond".toList :=
    Text.trimmed_trim "send-op-cond".toList
  have hyphen : Text.Trimmed "cmd-8".toList "cmd-8".toList := Text.trimmed_trim "cmd-8".toList
  have tagged : Numbered numberTags "ACMD+041".toList 41 :=
    ⟨"ACMD".toList, by decide, "+041".toList,
      ⟨['+'], by decide, "041".toList, [0, 4, 1], by decide, by decide, by decide, by decide⟩,
      by decide, by decide⟩
  have large : Numbered numberTags "CMD64".toList 64 :=
    ⟨"CMD".toList, by decide, "64".toList,
      ⟨[], by decide, "64".toList, [6, 4], by decide, by decide, by decide, by decide⟩,
      by decide, by decide⟩
  have noNumber (word : List Char) (unread : Command.number? Command.capitalTags word = none)
      (index : Nat) : ¬ Numbered numberTags word index := by
    intro numbered
    have read := (Command.apart_capitalTags.number?_eq_some_iff word (UInt8.ofNat index)).mpr
    rw [numbered.toNat_ofNat, unread] at read
    exact nomatch read numbered
  have shortened : Named "SEND_OP_COND".toList .sendOpCond := by decide
  have noName : ∀ command, ¬ Named "CMD_8".toList command := by
    intro command
    cases command <;> decide
  obtain ⟨numbered, -⟩ := resolved _ _ 7 between
  obtain ⟨outside, -⟩ := resolved _ _ 0 whole
  obtain ⟨-, looked⟩ := resolved _ _ 0 name
  obtain ⟨-, missed⟩ := resolved _ _ 0 hyphen
  have frame := (numbered 41 tagged).2.1 (by decide)
  exact ⟨between, tagged, (numbered 41 tagged).1, frame, large,
    (outside 64 large).2.2 (by decide), shortened,
    ((looked (noNumber _ (by decide))).1 .sendOpCond shortened).2, noName,
    ((missed (noNumber _ (by decide))).2 noName).2⟩

end CardCrc.Frame
