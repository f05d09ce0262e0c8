import CardCrc.Proofs.CommandLine.Failures
import CardCrc.Proofs.CommandLine.Recognition
import CardCrc.Proofs.Report.Modes

/-!
# Command lines of checksums

The name of an activity counts only as the first word, and no name of an
activity is hex text. Every other line of texts and options has the outcome of
the report on its texts, wherever the options stand and however they are
spelled. Behind an escape every word is a text, whatever it looks like.
-/

namespace CardCrc.CommandLine

open Invocation (checksumForm)

/-! ## The first word -/

/-- The names of activities. -/
def activityNames : List String := ["frame", "verify", "v", "completions", "help"]

/-- The first word, if there is one, is not the name of an activity. -/
def NamesNoActivity (words : List String) : Prop :=
  ∀ first, words.head? = some first → first ∉ activityNames

/-- Words that name no activity are read in the form of checksums. -/
theorem NamesNoActivity.ofWords_eq {words : List String} (free : NamesNoActivity words) :
    Invocation.ofWords words =
      Settings.ofWords checksumForm words >>= Invocation.ofChecksum := by
  rw [Invocation.ofWords.eq_def]
  split
  case h_6 => rfl
  all_goals exact absurd (by decide) (free _ rfl)

/-- A word that spells options begins with a hyphen. -/
theorem Spells.head_hyphen {words : List String} {choices : List Choice}
    (spelled : Spells words choices) :
    ∃ first rest, words = first :: rest ∧ first.toList.head? = some '-' := by
  cases spelled with
  | trace => exact ⟨_, _, rfl, by decide⟩
  | json => exact ⟨_, _, rfl, by decide⟩
  | format format => exact ⟨_, _, rfl, by decide⟩
  | equals format => exact ⟨_, _, rfl, by cases format <;> decide⟩
  | letters spelled some => exact ⟨_, _, rfl, by rw [String.toList_ofList]; rfl⟩

/-- Arranged words begin with a text or with a hyphen. -/
theorem Arranged.head_cases {words texts : List String} {choices : List Choice}
    (arranged : Arranged words texts choices) (first : String)
    (begins : words.head? = some first) :
    first ∈ texts ∨ first.toList.head? = some '-' := by
  cases arranged with
  | nil => exact nomatch begins
  | text text plain others =>
    obtain rfl := Option.some.inj begins
    exact Or.inl (List.mem_cons_self ..)
  | options spelled others =>
    obtain ⟨word, rest, rfl, hyphen⟩ := spelled.head_hyphen
    obtain rfl := Option.some.inj begins
    exact Or.inr hyphen

/-- No name of an activity begins with a hyphen. -/
theorem Arranged.namesNoActivity {words texts : List String} {choices : List Choice}
    (arranged : Arranged words texts choices)
    (free : ∀ text ∈ texts, text ∉ activityNames) :
    NamesNoActivity words := by
  intro first begins named
  rcases arranged.head_cases first begins with text | hyphen
  · exact free first text named
  · exact absurd hyphen ((by decide : ∀ name ∈ activityNames, name.toList.head? ≠ some '-')
      first named)

/-- No name of an activity is read as a byte. -/
theorem readByte_activity (name : String)
    (activity : name ∈ activityNames) (byte : UInt8) :
    HexText.readByte name ≠ .ok byte := by
  have refused : ∀ name ∈ activityNames,
      (HexText.readByte name).toOption = none := by decide +kernel
  intro read
  have nothing := refused name activity
  rw [read] at nothing
  exact nomatch nothing

/-- Texts that are read as bytes name no activity. -/
theorem not_activity_of_readAs (texts : List String) (bytes : List UInt8)
    (readAs : HexText.ReadAs texts bytes) :
    ∀ text ∈ texts, text ∉ activityNames := by
  induction readAs with
  | nil => exact List.forall_mem_nil _
  | cons read _ inductionHypothesis =>
    exact List.forall_mem_cons.mpr
      ⟨fun activity => readByte_activity _ activity _ read, inductionHypothesis⟩

/-! ## What is asked for -/

/-- Texts alone are arranged, and ask for nothing else. -/
theorem arranged_texts (texts : List String)
    (plain : ∀ text ∈ texts, text.toList.head? ≠ some '-') : Arranged texts texts [] := by
  induction texts with
  | nil => exact .nil
  | cons text texts inductionHypothesis =>
    rw [List.forall_mem_cons] at plain
    exact .text text plain.1 (inductionHypothesis plain.2)

/-- Without options the checksum is asked for in decimal and by itself. -/
theorem asks_nothing : Asks [] {} where
  once := List.nodup_nil
  exclusive := by decide
  trace := by decide
  json := by decide
  format format member := nomatch member
  decimal _ := rfl

namespace Invocation

/-- Arranged words that name no activity ask for the checksum of their texts. -/
theorem ofWords_of_arranged (words texts : List String) (choices : List Choice)
    (options : Report.Options) (arranged : Arranged words texts choices)
    (asks : Asks choices options) (free : NamesNoActivity words) :
    ofWords words = .ok (.checksum texts options) := by
  obtain ⟨after, holds, taken⟩ := Settings.holds_empty.take_arranged arranged asks.once
  have settings : Settings.ofWords checksumForm words = .ok after := by
    have read := taken []
    rw [List.append_nil] at read
    exact read
  rw [free.ofWords_eq, settings]
  exact holds.ofChecksum options asks

/-- Behind an escape all words are texts of the checksum. -/
theorem ofWords_of_escape (words texts : List String) (choices : List Choice)
    (options : Report.Options) (arranged : Arranged words [] choices)
    (asks : Asks choices options) :
    ofWords (words ++ "--" :: texts) = .ok (.checksum texts options) := by
  obtain ⟨before, holdsBefore, taken⟩ := Settings.holds_empty.take_arranged arranged asks.once
  obtain ⟨after, holds, rest⟩ := holdsBefore.take_texts texts
  have free : NamesNoActivity (words ++ "--" :: texts) := by
    cases words with
    | nil =>
      intro first begins
      obtain rfl := Option.some.inj begins
      decide
    | cons first others => exact arranged.namesNoActivity (List.forall_mem_nil _)
  have settings : Settings.ofWords checksumForm (words ++ "--" :: texts) = .ok after :=
    (taken _).trans rest
  rw [free.ofWords_eq, settings]
  exact holds.ofChecksum options asks

/-- Settings that are read and then asked for. -/
theorem settings_of_asked (read : Except Stop Settings) (ask : Settings → Except Stop Invocation)
    (invocation : Invocation) (understood : read >>= ask = .ok invocation) :
    ∃ settings, read = .ok settings ∧ ask settings = .ok invocation := by
  cases read with
  | ok settings => exact ⟨settings, rfl, understood⟩
  | error stop => exact nomatch understood

/-- A line that asks for a checksum names no activity. -/
theorem namesNoActivity_of_checksum (words texts : List String) (options : Report.Options)
    (understood : ofWords words = .ok (.checksum texts options)) : NamesNoActivity words := by
  rw [ofWords.eq_def] at understood
  split at understood
  case h_1 =>
    obtain ⟨settings, -, asked⟩ := settings_of_asked _ _ _ understood
    rw [ofFrame] at asked
    split at asked <;> exact nomatch asked
  case h_2 | h_3 =>
    obtain ⟨settings, -, asked⟩ := settings_of_asked _ _ _ understood
    rw [ofVerify] at asked
    split at asked <;> exact nomatch asked
  case h_4 =>
    obtain ⟨settings, -, asked⟩ := settings_of_asked _ _ _ understood
    rw [ofCompletions] at asked
    split at asked <;> exact nomatch asked
  case h_5 => exact nomatch understood
  case h_6 noFrame noVerify noShort noCompletions noHelp =>
    intro first begins named
    obtain ⟨rest, rfl⟩ := List.head?_eq_some_iff.mp begins
    simp only [activityNames, List.mem_cons, List.not_mem_nil, or_false] at named
    rcases named with rfl | rfl | rfl | rfl | rfl
    · exact noFrame _ rfl
    · exact noVerify _ rfl
    · exact noShort _ rfl
    · exact noCompletions _ rfl
    · exact noHelp _ rfl

/-- A line that asks for the checksum of texts without a hyphen in front, and
has no escape, is an arrangement of the texts and of its options. -/
theorem arranged_of_checksum (words texts : List String) (options : Report.Options)
    (noEscape : "--" ∉ words) (plain : ∀ text ∈ texts, text.toList.head? ≠ some '-')
    (understood : ofWords words = .ok (.checksum texts options)) :
    NamesNoActivity words ∧ ∃ choices, Arranged words texts choices ∧ Asks choices options := by
  have free := namesNoActivity_of_checksum words texts options understood
  rw [free.ofWords_eq] at understood
  obtain ⟨settings, read, asked⟩ := settings_of_asked _ _ _ understood
  have values := Settings.values_of_asked settings texts options asked
  obtain ⟨found, choices, arranged, holds, once⟩ := Settings.holds_empty.arranged_of_take
    List.nodup_nil words noEscape read (by rwa [values])
  obtain rfl : found = texts := holds.values.symm.trans values
  exact ⟨free, choices, arranged, holds.asks once options asked⟩

end Invocation

/-! ## Outcomes -/

/-- The lines of a report on a message in any form. Without JSON the last one is
the checksum. -/
theorem lined_report (message : List UInt8) (options : Report.Options) :
    ∃ lines, Report.Lined (Report.checksumText message options ++ "\n") lines ∧
      (options.json = false → lines.getLast? = some (options.format.render (crc7 message))) ∧
      (options.json = true →
        "  \"crc\": " ++ Numeral.decimal (crc7 message).toNat ++ "," ∈ lines) := by
  cases form : options.json with
  | false =>
    refine ⟨_, Report.lined_checksumText message options form, fun _ => ?_, Bool.noConfusion⟩
    rw [Report.checksumLines_eq, List.getLast?_concat]
  | true =>
    have lined := Report.lined_checksumObject message
    have object : Report.checksumText message options = Report.checksumObject message := by
      rw [Report.checksumText, form, if_pos rfl]
    rw [← object] at lined
    refine ⟨_, lined, Bool.noConfusion, fun _ => ?_⟩
    simp only [List.mem_cons, true_or, or_true]

/-- By itself the checksum is the whole report. -/
theorem checksumText_alone (message : List UInt8) :
    Report.checksumText message {} = Numeral.decimal (crc7 message).toNat := by
  rw [Report.checksumText, if_neg Bool.false_ne_true, Report.checksumLines_eq]
  exact String.intercalate_singleton

namespace Outcome

/-- Options stand anywhere between the texts of a line, in any spelling. Unless
the first word is the name of an activity, the outcome is that of the report on
the texts, with the options that are given. There are no other spellings: every
line without an escape that is understood as the checksum of texts without a
hyphen in front is arranged in this way.

If the texts are read as bytes, the first word is not the name of an activity
and the line is carried out. Without JSON the last line written is the checksum,
and with it the object has the checksum. For the texts alone nothing else is
written. -/
theorem options_stand_anywhere :
    (∀ words texts choices options, Arranged words texts choices → Asks choices options →
      NamesNoActivity words → ofWords words = ofReport (Report.checksum texts options)) ∧
    (∀ words texts options, "--" ∉ words → (∀ text ∈ texts, text.toList.head? ≠ some '-') →
      Invocation.ofWords words = .ok (.checksum texts options) →
      NamesNoActivity words ∧ ∃ choices, Arranged words texts choices ∧ Asks choices options) ∧
    (∀ words texts choices options bytes, Arranged words texts choices → Asks choices options →
      HexText.ReadAs texts bytes → NamesNoActivity words ∧ ∃ output lines,
        ofWords words = { exitCode := 0, output, errors := "" } ∧ Report.Lined output lines ∧
        (options.json = false → lines.getLast? = some (options.format.render (crc7 bytes))) ∧
        (options.json = true →
          "  \"crc\": " ++ Numeral.decimal (crc7 bytes).toNat ++ "," ∈ lines)) ∧
    ∀ texts bytes, (∀ text ∈ texts, text.toList.head? ≠ some '-') →
      HexText.ReadAs texts bytes → NamesNoActivity texts ∧
        ofWords texts = {
          exitCode := 0
          output := Numeral.decimal (crc7 bytes).toNat ++ "\n"
          errors := "" } := by
  have outcome (words texts : List String) (choices : List Choice) (options : Report.Options)
      (arranged : Arranged words texts choices) (asks : Asks choices options)
      (free : NamesNoActivity words) :
      ofWords words = ofReport (Report.checksum texts options) :=
    ofWords_of_ok words _
      (Invocation.ofWords_of_arranged words texts choices options arranged asks free)
  refine ⟨outcome, Invocation.arranged_of_checksum, ?_, ?_⟩
  · intro words texts choices options bytes arranged asks readAs
    have free := arranged.namesNoActivity (not_activity_of_readAs texts bytes readAs)
    have reported := Report.checksum_of_readBytes texts bytes
      ((HexText.readBytes_eq_ok_iff texts bytes).mpr readAs) options
    obtain ⟨lines, lined, plain, object⟩ := lined_report bytes options
    refine ⟨free, _, lines, ?_, lined, plain, object⟩
    rw [outcome words texts choices options arranged asks free, reported]
    rfl
  · intro texts bytes plain readAs
    have arranged := arranged_texts texts plain
    have free := arranged.namesNoActivity (not_activity_of_readAs texts bytes readAs)
    have reported := Report.checksum_of_readBytes texts bytes
      ((HexText.readBytes_eq_ok_iff texts bytes).mpr readAs) {}
    refine ⟨free, ?_⟩
    rw [outcome texts texts [] {} arranged asks_nothing free, reported, checksumText_alone]
    rfl

/-- An activity named behind an option is a text, and one that is no hex. A
trace in hex is asked for between two bytes. The texts `f` and `05` are bytes
and no activity. -/
theorem options_stand_anywhere_between_bytes :
    Arranged ["-fhex", "v", "40"] ["v", "40"] [.format .hex] ∧
      ofWords ["-fhex", "v", "40"] = {
        exitCode := 1
        output := ""
        errors := "Error: Invalid hex byte \"v\": invalid hex digit 'v'\n" } ∧
      (∃ choices, Arranged ["5", "--format=bin", "-j"] ["5"] choices ∧
        Asks choices { json := true, format := .binary }) ∧
      (∃ output lines,
        ofWords ["48", "-tf", "hex", "0"] = { exitCode := 0, output, errors := "" } ∧
        Report.Lined output lines ∧ lines.getLast? = some "0x6b") ∧
      ofWords ["f", "05"] = { exitCode := 0, output := "137\n", errors := "" } := by
  obtain ⟨outcome, recognised, carriedOut, alone⟩ := options_stand_anywhere
  have attached : Spells ["-fhex"] [.format .hex] :=
    .letters (.attached .hex) (List.cons_ne_nil _ _)
  have together : Spells ["-tf", "hex"] [.trace, .format .hex] :=
    .letters (.trace (.format .hex)) (List.cons_ne_nil _ _)
  have activity : Arranged ["-fhex", "v", "40"] ["v", "40"] [.format .hex] :=
    .options attached (.text "v" (by decide) (.text "40" (by decide) .nil))
  have between : Arranged ["48", "-tf", "hex", "0"] ["48", "0"] [.trace, .format .hex] :=
    .text "48" (by decide) (.options together (.text "0" (by decide) .nil))
  have hex : Asks [.format .hex] { format := .hex } :=
    ⟨by decide, by decide, by decide, by decide, by simp, by simp⟩
  have traced : Asks [.trace, .format .hex] { trace := true, format := .hex } :=
    ⟨by decide, by decide, by decide, by decide, by simp, by simp⟩
  have free : NamesNoActivity ["-fhex", "v", "40"] := by
    intro first begins
    obtain rfl := Option.some.inj begins
    decide
  have sum : crc7 [0x48, 0] = 0x6b := by decide +kernel
  have letters : crc7 [0xf, 5] = 137 := by decide +kernel
  have refused := outcome _ _ _ _ activity hex free
  obtain ⟨-, choices, arranged, asks⟩ := recognised ["5", "--format=bin", "-j"] ["5"]
    { json := true, format := .binary } (by decide) (by decide) (by decide +kernel)
  obtain ⟨-, output, lines, written, lined, last, -⟩ := carriedOut _ _ _ _ [0x48, 0] between traced
    (.cons (by decide) (.cons (by decide) .nil))
  obtain ⟨-, lone⟩ := alone ["f", "05"] [0xf, 5] (by decide)
    (.cons (by decide) (.cons (by decide) .nil))
  rw [letters] at lone
  refine ⟨activity, ?_, ⟨choices, arranged, asks⟩, ⟨output, lines, written, lined, ?_⟩, lone⟩
  · rw [refused]
    decide +kernel
  · rw [last rfl, sum]
    rfl

/-- Behind an escape every word is a text, be it spelled like an option, a call
for help, an activity or another escape. With the options in front the outcome
is that of the report on these texts: it is written, with exit code zero, or its
fault is told, with exit code one. -/
theorem escaped_words_are_texts (words texts : List String) (choices : List Choice)
    (options : Report.Options) (arranged : Arranged words [] choices)
    (asks : Asks choices options) :
    ofWords (words ++ ["--"] ++ texts) = ofReport (Report.checksum texts options) ∧
      ((∃ output, Report.checksum texts options = .ok output ∧
          ofWords (words ++ ["--"] ++ texts) = { exitCode := 0, output, errors := "" }) ∨
        ∃ fault, Report.checksum texts options = .error fault ∧
          ofWords (words ++ ["--"] ++ texts) =
            { exitCode := 1, output := "", errors := "Error: " ++ fault.message ++ "\n" }) := by
  have outcome : ofWords (words ++ ["--"] ++ texts) =
      ofReport (Report.checksum texts options) := by
    rw [List.append_assoc, List.singleton_append]
    exact ofWords_of_ok _ _
      (Invocation.ofWords_of_escape words texts choices options arranged asks)
  refine ⟨outcome, ?_⟩
  cases reported : Report.checksum texts options with
  | ok output =>
    rw [reported] at outcome
    exact Or.inl ⟨output, rfl, outcome⟩
  | error fault =>
    rw [reported] at outcome
    exact Or.inr ⟨fault, rfl, outcome⟩

/-- Behind an escape `-a` is a number below zero, and none of the other words is
looked at. -/
theorem escaped_words_are_texts_below_zero :
    Arranged ["-tf=bin"] [] [.trace, .format .binary] ∧
      ofWords ["-tf=bin", "--", "-a", "--json", "--", "-h", "frame", ""] = {
        exitCode := 1
        output := ""
        errors := "Error: Value -10 at index 0 is out of range (expected 0..=255)\n" } := by
  have together : Spells ["-tf=bin"] [.trace, .format .binary] :=
    .letters (.trace (.equals .binary)) (List.cons_ne_nil _ _)
  have arranged : Arranged ["-tf=bin"] [] [.trace, .format .binary] := .options together .nil
  have asks : Asks [.trace, .format .binary] { trace := true, format := .binary } :=
    ⟨by decide, by decide, by decide, by decide, by simp, by simp⟩
  refine ⟨arranged, ?_⟩
  have outcome := (escaped_words_are_texts _ ["-a", "--json", "--", "-h", "frame", ""] _ _
    arranged asks).1
  exact outcome.trans (by decide +kernel)

end Outcome

end CardCrc.CommandLine
