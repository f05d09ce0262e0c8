import CardCrc.CommandLine.Invocation

/-!
# Spellings of options

An option of a checksum is spelled by its name in full or by its letter, and the
letters of several options share a hyphen. A format has its value in the next
word, or in its own word with an equals sign or, behind the letter, without one.
However options are spelled, the words say the options and nothing else.
-/

namespace CardCrc.CommandLine

/-- An option of a checksum. -/
inductive Choice
  | trace
  | json
  | format (format : Report.ByteFormat)
deriving DecidableEq

/-- The name of a format. -/
def nameOfFormat : Report.ByteFormat → String
  | .decimal => "dec"
  | .hex => "hex"
  | .binary => "bin"

/-- The switch of an option. -/
def Choice.switch : Choice → Switch
  | .trace => .flag .trace
  | .json => .flag .json
  | .format _ => .format

/-- Letters that spell options, and the words behind them that they take. -/
inductive Letters : List Char → List String → List Choice → Prop
  | nil : Letters [] [] []
  | trace {letters : List Char} {words : List String} {choices : List Choice} :
      Letters letters words choices → Letters ('t' :: letters) words (.trace :: choices)
  | json {letters : List Char} {words : List String} {choices : List Choice} :
      Letters letters words choices → Letters ('j' :: letters) words (.json :: choices)
  /-- As in `-f hex`. -/
  | format (format : Report.ByteFormat) : Letters ['f'] [nameOfFormat format] [.format format]
  /-- As in `-fhex`. -/
  | attached (format : Report.ByteFormat) :
      Letters ('f' :: (nameOfFormat format).toList) [] [.format format]
  /-- As in `-f=hex`. -/
  | equals (format : Report.ByteFormat) :
      Letters ('f' :: '=' :: (nameOfFormat format).toList) [] [.format format]

/-- Words that spell one option in full or several by their letters. -/
inductive Spells : List String → List Choice → Prop
  | trace : Spells ["--trace"] [.trace]
  | json : Spells ["--json"] [.json]
  | format (format : Report.ByteFormat) :
      Spells ["--format", nameOfFormat format] [.format format]
  | equals (format : Report.ByteFormat) :
      Spells ["--format=" ++ nameOfFormat format] [.format format]
  | letters {letters : List Char} {words : List String} {choices : List Choice} :
      Letters letters words choices → letters ≠ [] →
      Spells (String.ofList ('-' :: letters) :: words) choices

/-! ## What spelled options say -/

/-- A format is found by its name. -/
@[simp] theorem formatOfName?_nameOfFormat (format : Report.ByteFormat) :
    formatOfName? (nameOfFormat format) = some format := by
  cases format <;> rfl

/-- The name of a format does not begin with a hyphen. -/
theorem nameOfFormat_plain (format : Report.ByteFormat) :
    (nameOfFormat format).toList.head? ≠ some '-' := by
  cases format <;> decide

/-- A letter of an option is neither a hyphen nor a digit. -/
theorem Letters.head_letter {letter : Char} {letters : List Char} {words : List String}
    {choices : List Choice} (spelled : Letters (letter :: letters) words choices) :
    letter ≠ '-' ∧ letter.isDigit = false := by
  cases spelled <;> decide

/-- A switch is told by its letter. -/
theorem Switch.letter_inj {first second : Switch} (same : first.letter = second.letter) :
    first = second := by
  cases first with
  | flag first =>
    cases second with
    | flag second => cases first <;> cases second <;> first | rfl | exact absurd same (by decide)
    | format => cases first <;> exact absurd same (by decide)
  | format =>
    cases second with
    | flag second => cases second <;> exact absurd same (by decide)
    | format => rfl

/-- What an option says if it is in one word. -/
def Choice.item : Choice → Item
  | .trace => .flag .trace
  | .json => .flag .json
  | .format value => .format (nameOfFormat value)

namespace Form

/-- A word that does not begin with a hyphen is a value. -/
theorem ofWord_text (form : Form) (text : String) (plain : text.toList.head? ≠ some '-') :
    form.ofWord text = [.value text] := by
  rw [ofWord]
  split
  case h_1 name shape => exact absurd (by rw [shape]; rfl) plain
  case h_2 letter rest _ shape => exact absurd (by rw [shape]; rfl) plain
  case h_3 => rfl

/-- Such a word is no escape, and the words behind it are read on. -/
theorem items_text (form : Form) (text : String) (plain : text.toList.head? ≠ some '-')
    (rest : List String) : form.items (text :: rest) = .value text :: form.items rest := by
  have noEscape : text ≠ "--" := fun same => plain (by rw [same]; rfl)
  rw [items, if_neg noEscape, ofWord_text form text plain, List.singleton_append]

/-- A word of letters that is no number says what its letters say. -/
theorem items_letters (form : Form) (letter : Char) (letters : List Char) (named : letter ≠ '-')
    (noDigit : letter.isDigit = false) (rest : List String) :
    form.items (String.ofList ('-' :: letter :: letters) :: rest) =
      form.ofLetters (letter :: letters) ++ form.items rest := by
  have noEscape : String.ofList ('-' :: letter :: letters) ≠ "--" := by
    intro same
    have letters := congrArg String.toList same
    rw [String.toList_ofList] at letters
    exact named (List.head_eq_of_cons_eq (List.tail_eq_of_cons_eq letters))
  have noNumber : isNumber (letter :: letters) = false := by
    rw [isNumber, List.takeWhile_cons_of_neg (by rw [noDigit]; exact Bool.false_ne_true)]
    rfl
  rw [items, if_neg noEscape, ofWord, String.toList_ofList]
  split
  case h_1 name shape =>
    exact absurd (List.head_eq_of_cons_eq (List.tail_eq_of_cons_eq shape)) named
  case h_2 first others _ shape =>
    obtain ⟨rfl, rfl⟩ := List.cons_eq_cons.mp (List.tail_eq_of_cons_eq shape)
    rw [noNumber, Bool.and_false, if_neg Bool.false_ne_true]
  case h_3 _ other => exact absurd rfl (other letter letters)

/-- A switch that the form knows is found by its letter. -/
theorem find?_letter (form : Form) (switch : Switch) (known : switch ∈ form.switches) :
    form.switches.find? (·.letter == switch.letter) = some switch := by
  cases found : form.switches.find? (·.letter == switch.letter) with
  | none => exact absurd (beq_self_eq_true _) (List.find?_eq_none.mp found switch known)
  | some other =>
    have lettered := List.find?_some found
    rw [Switch.letter_inj (beq_iff_eq.mp lettered)]

/-- The letter of a flag that the form knows says the flag. -/
theorem ofLetters_flag (form : Form) (flag : Flag) (known : .flag flag ∈ form.switches)
    (letters : List Char) :
    form.ofLetters ((Switch.flag flag).letter :: letters) =
      .flag flag :: form.ofLetters letters := by
  rw [ofLetters.eq_def]
  dsimp only
  rw [form.find?_letter (.flag flag) known]

/-- The letter of a format with its value attached. -/
theorem ofLetters_attached (format : Report.ByteFormat) :
    Invocation.checksumForm.ofLetters ('f' :: (nameOfFormat format).toList) =
      [.format (nameOfFormat format)] := by
  cases format <;> rfl

end Form

namespace Settings

open Invocation (checksumForm)

/-- A format says the same in one word and in two. -/
theorem take_formatNext (form : Form) (settings : Settings) (name : String) (items : List Item) :
    take form settings (.formatNext :: .value name :: items) =
      take form settings (.format name :: items) := rfl

/-- The letter of a flag is taken as the flag, if the letters behind it are taken as
the items behind the flag. -/
theorem take_flag_letter (form : Form) (flag : Flag) (known : .flag flag ∈ form.switches)
    (letters : List Char) (items others : List Item)
    (behind : ∀ settings, take form settings (form.ofLetters letters ++ items) =
      take form settings others) (settings : Settings) :
    take form settings (form.ofLetters ((Switch.flag flag).letter :: letters) ++ items) =
      take form settings (.flag flag :: others) := by
  rw [Form.ofLetters_flag form flag known, List.cons_append]
  simp only [take, behind]

/-- Letters, with the words they take, are taken as the options they spell. -/
theorem take_letters (letters : List Char) (words : List String) (choices : List Choice)
    (spelled : Letters letters words choices) (settings : Settings) (rest : List String) :
    take checksumForm settings
        (checksumForm.ofLetters letters ++ checksumForm.items (words ++ rest)) =
      take checksumForm settings (choices.map Choice.item ++ checksumForm.items rest) := by
  induction spelled generalizing settings with
  | nil => rfl
  | trace _ inductionHypothesis =>
    exact take_flag_letter checksumForm .trace (by decide) _ _ _ inductionHypothesis settings
  | json _ inductionHypothesis =>
    exact take_flag_letter checksumForm .json (by decide) _ _ _ inductionHypothesis settings
  | format format =>
    rw [List.singleton_append, Form.items_text _ _ (nameOfFormat_plain format)]
    exact take_formatNext checksumForm settings _ _
  | attached format =>
    rw [Form.ofLetters_attached]
    rfl
  | equals format => cases format <;> rfl

/-- Words that spell options are taken as these options. -/
theorem take_spelled (words : List String) (choices : List Choice)
    (spelled : Spells words choices) (settings : Settings) (rest : List String) :
    take checksumForm settings (checksumForm.items (words ++ rest)) =
      take checksumForm settings (choices.map Choice.item ++ checksumForm.items rest) := by
  cases spelled with
  | trace => rfl
  | json => rfl
  | format format =>
    have said : checksumForm.items ("--format" :: nameOfFormat format :: rest) =
        .formatNext :: checksumForm.items (nameOfFormat format :: rest) := rfl
    rw [List.cons_append, List.singleton_append, said,
      Form.items_text _ _ (nameOfFormat_plain format)]
    exact take_formatNext checksumForm settings _ _
  | equals format => cases format <;> rfl
  | @letters letters words choices spelled some =>
    obtain ⟨letter, others, rfl⟩ := List.exists_cons_of_ne_nil some
    obtain ⟨named, noDigit⟩ := spelled.head_letter
    rw [List.cons_append, Form.items_letters _ letter others named noDigit]
    exact take_letters _ words choices spelled settings rest

end Settings

end CardCrc.CommandLine
