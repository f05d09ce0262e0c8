import CardCrc.Proofs.CommandLine.Arrangement

/-!
# Recognising arrangements

Options have no other spellings. Whenever words without an escape are read and
no value among them begins with a hyphen, they are texts and spelled options in
some order, and none of the options is given twice.
-/

namespace CardCrc.CommandLine

open Invocation (checksumForm)

/-- Only the name of a format finds it. -/
theorem nameOfFormat_of_found (name : String) (format : Report.ByteFormat)
    (found : formatOfName? name = some format) : name = nameOfFormat format := by
  rw [formatOfName?.eq_def] at found
  split at found
  case h_4 => cases found
  all_goals
    obtain rfl := Option.some.inj found
    rfl

namespace Settings

/-- A format is set by its name only. -/
theorem nameOfFormat_of_take (settings after : Settings) (name : String) (items : List Item)
    (taken : take checksumForm settings (.format name :: items) = .ok after) :
    ∃ format, name = nameOfFormat format := by
  rw [take, setFormat] at taken
  split at taken
  case h_1 format _ found => exact ⟨format, nameOfFormat_of_found name format found⟩
  case h_2 => cases taken

end Settings

namespace Form

/-- A switch in full is no value. -/
theorem ofName_ne_value (form : Form) (name : List Char) (text : String) :
    form.ofName name ≠ .value text := by
  rw [ofName]
  split <;> exact Item.noConfusion

/-- Letters do not begin with a value. -/
theorem ofLetters_ne_value (form : Form) (letter : Char) (letters : List Char)
    (items others : List Item) (text : String) :
    form.ofLetters (letter :: letters) ++ items ≠ .value text :: others := by
  intro same
  rw [ofLetters.eq_def] at same
  dsimp only at same
  split at same
  case h_1 => cases same
  case h_2 =>
    split at same <;> cases same
  case h_3 => cases same

/-- A value at the beginning is the first word. -/
theorem items_eq_value (form : Form) (words : List String) (text : String) (others : List Item)
    (said : form.items words = .value text :: others) :
    ∃ rest, words = text :: rest ∧ others = form.items rest := by
  cases words with
  | nil => cases said
  | cons word rest =>
    rw [items] at said
    split at said
    case isTrue => cases said
    case isFalse =>
      rw [ofWord] at said
      split at said
      case h_1 name _ =>
        exact absurd (List.head_eq_of_cons_eq said) (ofName_ne_value form name text)
      case h_2 letter letters _ _ =>
        split at said
        case isTrue =>
          obtain ⟨same, following⟩ := List.cons_eq_cons.mp said
          exact ⟨rest, by rw [Item.value.inj same], following.symm⟩
        case isFalse => exact absurd said (ofLetters_ne_value form letter letters _ _ text)
      case h_3 =>
        obtain ⟨same, following⟩ := List.cons_eq_cons.mp said
        exact ⟨rest, by rw [Item.value.inj same], following.symm⟩

end Form

namespace Settings

/-- A format in two words takes the next word, which is the name of a format. -/
theorem formatNext_of_take (settings after : Settings) (words : List String)
    (taken : take checksumForm settings (.formatNext :: checksumForm.items words) = .ok after) :
    ∃ format rest, words = nameOfFormat format :: rest := by
  cases said : checksumForm.items words with
  | nil =>
    rw [said] at taken
    cases taken
  | cons item others =>
    rw [said] at taken
    cases item with
    | value text =>
      obtain ⟨rest, rfl, -⟩ := Form.items_eq_value checksumForm words text others said
      obtain ⟨format, rfl⟩ := nameOfFormat_of_take settings after text others taken
      exact ⟨format, rest, rfl⟩
    | flag flag => cases taken
    | format name => cases taken
    | formatNext => cases taken
    | onlyValues => cases taken
    | unknown => cases taken

/-- A flag that is taken leaves settings in which the other items are taken. -/
theorem next_of_take (form : Form) (settings after : Settings) (flag : Flag) (items : List Item)
    (taken : take form settings (.flag flag :: items) = .ok after) :
    ∃ next, take form next items = .ok after := by
  rw [take] at taken
  cases set : settings.setFlag flag with
  | ok next =>
    rw [set] at taken
    exact ⟨next, taken⟩
  | error stop =>
    rw [set] at taken
    cases taken

/-- Letters that are taken spell options, some of the words behind them being
their values. -/
theorem letters_of_take (letters : List Char) (settings after : Settings) (words : List String)
    (taken : take checksumForm settings
      (checksumForm.ofLetters letters ++ checksumForm.items words) = .ok after) :
    ∃ values rest choices, words = values ++ rest ∧ Letters letters values choices := by
  induction letters generalizing settings with
  | nil => exact ⟨[], words, [], rfl, .nil⟩
  | cons letter letters inductionHypothesis =>
    rw [Form.ofLetters.eq_def] at taken
    dsimp only at taken
    split at taken
    case h_1 flag found =>
      have lettered := List.find?_some found
      obtain rfl := beq_iff_eq.mp lettered
      cases flag with
      | help => cases taken
      | version => cases taken
      | trace =>
        obtain ⟨next, others⟩ := next_of_take _ _ _ _ _ taken
        obtain ⟨values, rest, choices, split, spelled⟩ := inductionHypothesis next others
        exact ⟨values, rest, _, split, .trace spelled⟩
      | json =>
        obtain ⟨next, others⟩ := next_of_take _ _ _ _ _ taken
        obtain ⟨values, rest, choices, split, spelled⟩ := inductionHypothesis next others
        exact ⟨values, rest, _, split, .json spelled⟩
    case h_2 found =>
      have lettered := List.find?_some found
      obtain rfl := beq_iff_eq.mp lettered
      split at taken
      case h_1 =>
        obtain ⟨format, rest, rfl⟩ := formatNext_of_take settings after words taken
        exact ⟨[nameOfFormat format], rest, _, rfl, .format format⟩
      case h_2 value =>
        obtain ⟨format, named⟩ := nameOfFormat_of_take settings after _ _ taken
        obtain rfl : value = (nameOfFormat format).toList := by rw [← named, String.toList_ofList]
        exact ⟨[], words, _, rfl, .equals format⟩
      case h_3 =>
        obtain ⟨format, named⟩ := nameOfFormat_of_take settings after _ _ taken
        obtain rfl : letters = (nameOfFormat format).toList := by
          rw [← named, String.toList_ofList]
        exact ⟨[], words, _, rfl, .attached format⟩
    case h_3 => cases taken

/-- A switch in full that is taken spells an option. -/
theorem name_of_take (name : List Char) (settings after : Settings) (words : List String)
    (taken : take checksumForm settings
      (checksumForm.ofName name :: checksumForm.items words) = .ok after) :
    ∃ values rest choices, words = values ++ rest ∧
      Spells (String.ofList ('-' :: '-' :: name) :: values) choices := by
  have parts := List.takeWhile_append_dropWhile (p := (· ≠ '=')) (l := name)
  rw [Form.ofName] at taken
  cases dropped : name.dropWhile (· ≠ '=') with
  | nil =>
    rw [dropped, List.append_nil] at parts
    rw [dropped, parts] at taken
    split at taken
    case h_1 flag found _ =>
      have named := List.find?_some found
      obtain rfl := beq_iff_eq.mp named
      cases flag with
      | help => cases taken
      | version => cases taken
      | trace => exact ⟨[], words, _, rfl, .trace⟩
      | json => exact ⟨[], words, _, rfl, .json⟩
    case h_2 present => cases present
    case h_3 found _ =>
      have named := List.find?_some found
      obtain rfl := beq_iff_eq.mp named
      obtain ⟨format, rest, rfl⟩ := formatNext_of_take settings after words taken
      exact ⟨[nameOfFormat format], rest, _, rfl, .format format⟩
    case h_4 => cases taken
  | cons sign value =>
    obtain rfl : sign = '=' := by
      have stopped := List.head?_dropWhile_not (· ≠ '=') name
      rw [dropped] at stopped
      simpa using stopped
    rw [dropped] at taken parts
    split at taken
    case h_1 absent => cases absent
    case h_2 text found present =>
      obtain rfl := Option.some.inj present
      have named := List.find?_some found
      rw [beq_iff_eq] at named
      obtain ⟨format, valued⟩ := nameOfFormat_of_take settings after _ _ taken
      obtain rfl : value = (nameOfFormat format).toList := by rw [← valued, String.toList_ofList]
      rw [← named] at parts
      subst parts
      refine ⟨[], words, [.format format], rfl, ?_⟩
      have whole : String.ofList ('-' :: '-' :: (Switch.format.name.toList ++
          '=' :: (nameOfFormat format).toList)) = "--format=" ++ nameOfFormat format := by
        cases format <;> decide
      rw [whole]
      exact .equals format
    case h_3 absent => cases absent
    case h_4 => cases taken

/-- A first word that is taken is a value or begins a spelling. -/
theorem value_or_spelled (settings after : Settings) (word : String) (words : List String)
    (noEscape : word ≠ "--")
    (taken : take checksumForm settings (checksumForm.items (word :: words)) = .ok after) :
    checksumForm.items (word :: words) = .value word :: checksumForm.items words ∨
      ∃ values rest choices, words = values ++ rest ∧ Spells (word :: values) choices := by
  rw [Form.items, if_neg noEscape, Form.ofWord] at taken ⊢
  split at taken
  case h_1 name shape =>
    obtain rfl : word = String.ofList ('-' :: '-' :: name) := by
      rw [← shape, String.ofList_toList]
    exact Or.inr (name_of_take name settings after words taken)
  case h_2 letter letters _ shape =>
    split at taken
    case isTrue number =>
      rw [if_pos number]
      exact Or.inl rfl
    case isFalse =>
      obtain rfl : word = String.ofList ('-' :: letter :: letters) := by
        rw [← shape, String.ofList_toList]
      obtain ⟨values, rest, choices, split, spelled⟩ := letters_of_take _ settings after words taken
      exact Or.inr ⟨values, rest, choices, split, .letters spelled (List.cons_ne_nil _ _)⟩
  case h_3 => exact Or.inl rfl

/-- An option that is given again is a mistake. -/
theorem Holds.take_again {settings : Settings} {texts : List String} {choices : List Choice}
    (holds : Holds settings texts choices) (choice : Choice)
    (given : choice.switch ∈ choices.map Choice.switch) (items : List Item) :
    take checksumForm settings (choice.item :: items) = .error .misuse := by
  obtain ⟨earlier, member, same⟩ := List.mem_map.mp given
  cases choice with
  | trace =>
    have set : settings.trace = true := by
      cases earlier with
      | trace => exact holds.trace.mpr member
      | json => cases same
      | format old => cases same
    rw [Choice.item, take, setFlag, if_pos set]
    rfl
  | json =>
    have set : settings.json = true := by
      cases earlier with
      | trace => cases same
      | json => exact holds.json.mpr member
      | format old => cases same
    rw [Choice.item, take, setFlag, if_pos set]
    rfl
  | format value =>
    obtain ⟨old, set⟩ : ∃ old, settings.format = some old := by
      cases earlier with
      | trace => cases same
      | json => cases same
      | format old => exact ⟨old, (holds.format old).mpr member⟩
    rw [Choice.item, take, setFormat, set]
    rfl

/-- Options that are taken are not given twice. -/
theorem Holds.of_take_choices {settings after : Settings} {texts : List String}
    {taken : List Choice} (holds : Holds settings texts taken)
    (once : (taken.map Choice.switch).Nodup) (choices : List Choice) (items : List Item)
    (read : take checksumForm settings (choices.map Choice.item ++ items) = .ok after) :
    ∃ next, Holds next texts (taken ++ choices) ∧ ((taken ++ choices).map Choice.switch).Nodup ∧
      take checksumForm next items = .ok after := by
  induction choices generalizing settings taken with
  | nil => exact ⟨settings, by rwa [List.append_nil], by rwa [List.append_nil], read⟩
  | cons choice choices inductionHypothesis =>
    rw [List.map_cons, List.cons_append] at read
    by_cases given : choice.switch ∈ taken.map Choice.switch
    · exact nomatch (holds.take_again choice given _).symm.trans read
    · obtain ⟨next, holdsNext, first⟩ := holds.take_choice choice given
      have more : ((taken ++ [choice]).map Choice.switch).Nodup := by
        rw [List.map_append, List.map_singleton, ← List.concat_eq_append]
        exact once.concat given
      rw [List.append_cons]
      exact inductionHypothesis holdsNext more ((first _).symm.trans read)

/-- Words without an escape that are taken are arranged, if no value among them
begins with a hyphen. -/
theorem Holds.arranged_of_take {settings after : Settings} {before : List String}
    {taken : List Choice} (holds : Holds settings before taken)
    (once : (taken.map Choice.switch).Nodup) (words : List String) (noEscape : "--" ∉ words)
    (read : take checksumForm settings (checksumForm.items words) = .ok after)
    (plain : ∀ text ∈ after.values, text.toList.head? ≠ some '-') :
    ∃ texts choices, Arranged words texts choices ∧
      Holds after (before ++ texts) (taken ++ choices) ∧
      ((taken ++ choices).map Choice.switch).Nodup := by
  -- The induction is on the number of words, as a spelling may take two.
  induction size : words.length using Nat.strongRecOn
    generalizing settings before taken words with
  | ind count inductionHypothesis =>
    cases words with
    | nil =>
      obtain rfl := Except.ok.inj read
      exact ⟨[], [], .nil, by rwa [List.append_nil, List.append_nil], by rwa [List.append_nil]⟩
    | cons word words =>
      rw [List.mem_cons, not_or] at noEscape
      rcases value_or_spelled settings after word words (Ne.symm noEscape.1) read with
        value | ⟨values, rest, chosen, rfl, spelled⟩
      · obtain ⟨next, holdsNext, first⟩ := holds.take_text word
        rw [value, first] at read
        obtain ⟨texts, choices, arranged, holdsAfter, onceAfter⟩ :=
          inductionHypothesis words.length (by rw [← size]; exact Nat.lt_succ_self _) holdsNext once
            words noEscape.2 read rfl
        rw [List.append_assoc] at holdsAfter
        have inside : word ∈ after.values := by
          rw [holdsAfter.values]
          exact List.mem_append_right _ (List.mem_cons_self ..)
        exact ⟨word :: texts, choices, .text word (plain word inside) arranged, holdsAfter,
          onceAfter⟩
      · rw [← List.cons_append, take_spelled _ chosen spelled] at read
        obtain ⟨next, holdsNext, onceNext, others⟩ := holds.of_take_choices once chosen _ read
        have fewer : rest.length < count := by
          rw [← size, List.length_cons, List.length_append]
          omega
        have left : "--" ∉ rest := fun member => noEscape.2 (List.mem_append_right _ member)
        obtain ⟨texts, choices, arranged, holdsAfter, onceAfter⟩ :=
          inductionHypothesis rest.length fewer holdsNext onceNext rest left others rfl
        rw [List.append_assoc] at holdsAfter onceAfter
        exact ⟨texts, chosen ++ choices, .options spelled arranged, holdsAfter, onceAfter⟩

/-- The texts of a checksum are the values. -/
theorem values_of_asked (settings : Settings) (texts : List String) (options : Report.Options)
    (asked : Invocation.ofChecksum settings = .ok (.checksum texts options)) :
    settings.values = texts := by
  rw [Invocation.ofChecksum] at asked
  split at asked
  case isTrue => cases asked
  case isFalse => exact (Invocation.checksum.inj (Except.ok.inj asked)).1

/-- The options of a checksum are what the options held ask for. -/
theorem Holds.asks {settings : Settings} {values texts : List String} {choices : List Choice}
    (holds : Holds settings values choices) (once : (choices.map Choice.switch).Nodup)
    (options : Report.Options)
    (asked : Invocation.ofChecksum settings = .ok (.checksum texts options)) :
    Asks choices options := by
  rw [Invocation.ofChecksum] at asked
  split at asked
  case isTrue => cases asked
  case isFalse separate =>
    obtain ⟨-, rfl⟩ := Invocation.checksum.inj (Except.ok.inj asked)
    refine ⟨once, ?_, holds.trace, holds.json, ?_, ?_⟩
    · rw [← holds.trace, ← holds.json, ← Bool.and_eq_true]
      exact separate
    · intro format member
      change settings.format.getD .decimal = format
      rw [(holds.format format).mpr member]
      rfl
    · intro unchosen
      have unset : settings.format = none := by
        rw [Option.eq_none_iff_forall_ne_some]
        exact fun format set => unchosen format ((holds.format format).mp set)
      change settings.format.getD .decimal = .decimal
      rw [unset]
      rfl

end Settings

end CardCrc.CommandLine
