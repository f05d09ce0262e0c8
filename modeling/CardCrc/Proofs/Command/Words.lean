import CardCrc.Command.Lookup
import CardCrc.Proofs.Text.Numerals
import CardCrc.Proofs.Text.Trimming

/-!
# Words for commands

A word stands for a number when it is a numeral of a byte, with a tag in front or
none. A tag is told from a numeral by its first letter, and from other tags too,
so there is one way only to take a word apart.

Changing the case of a word, or its hyphens to underscores, leaves a numeral as
it is and changes at most the tag. Words that differ in these ways therefore
stand for the same numbers, and it does not matter in which of its forms a text
is looked at for one.

A word is the name of at most one command, whether the name is given in full or
without the part that may be left out.
-/

namespace CardCrc.Command

open Numeral (Spells)

/-- What may stand in front of a number in capitals. -/
def numberTags : List (List Char) := [[], ['A', 'C', 'M', 'D'], ['C', 'M', 'D']]

/-- The word is one of some tags and a decimal numeral of a number that is a
byte. -/
def Numbered (tags : List (List Char)) (word : List Char) (index : Nat) : Prop :=
  ∃ tag ∈ tags, ∃ numeral, Spells 10 numeral index ∧ index ≤ 255 ∧ word = tag ++ numeral

/-- The word is the name of a command, or what follows `SD_` in it. -/
def Named (word : List Char) (command : Command) : Prop :=
  command.name.toList = word ∨ command.name.toList = ['S', 'D', '_'] ++ word

instance (word : List Char) (command : Command) : Decidable (Named word command) :=
  inferInstanceAs (Decidable (_ ∨ _))

/-- A word stands for a byte only. -/
theorem Numbered.le {tags : List (List Char)} {word : List Char} {index : Nat}
    (numbered : Numbered tags word index) : index ≤ 255 := by
  obtain ⟨-, -, -, -, within, -⟩ := numbered
  exact within

/-- The number of a word fits into a byte. -/
theorem Numbered.toNat_ofNat {tags : List (List Char)} {word : List Char} {index : Nat}
    (numbered : Numbered tags word index) : (UInt8.ofNat index).toNat = index :=
  UInt8.toNat_ofNat_of_lt' (Nat.lt_succ_of_le numbered.le)

/-! ## Tags -/

/-- What decimal numerals are made of. -/
def numeralCharacters : List Char := "+0123456789".toList

/-- Tags are told from numerals, and from one another, by how they begin. -/
structure Apart (tags : List (List Char)) : Prop where
  /-- There is no empty tag. -/
  present : ∀ tag ∈ tags, tag ≠ []
  /-- No tag begins as a numeral may. -/
  heads : ∀ tag ∈ tags, tag.head?.any numeralCharacters.contains = false
  /-- No two tags begin alike. -/
  distinct : ∀ tag ∈ tags, ∀ other ∈ tags, tag.head? = other.head? → tag = other

/-- The tags in capitals are told apart. -/
theorem apart_capitalTags : Apart capitalTags := ⟨by decide, by decide, by decide⟩

/-- A digit of base ten is one of the ten. -/
theorem mem_numeralCharacters_of_isDigit (character : Char) (worth : Nat)
    (digit : Numeral.IsDigit 10 character worth) : character ∈ numeralCharacters := by
  have smalls : ∀ worth < 10,
      "0123456789abcdef".toList[worth]?.all numeralCharacters.contains = true := by decide
  have capitals : ∀ worth < 10,
      "0123456789ABCDEF".toList[worth]?.all numeralCharacters.contains = true := by decide
  obtain ⟨stands | stands, inside⟩ := digit
  · have checked := smalls worth inside
    rw [stands] at checked
    exact List.contains_iff_mem.mp checked
  · have checked := capitals worth inside
    rw [stands] at checked
    exact List.contains_iff_mem.mp checked

/-- A decimal numeral is made of digits and a plus sign. -/
theorem mem_numeralCharacters {numeral : List Char} {index : Nat} (spells : Spells 10 numeral index)
    (character : Char) (member : character ∈ numeral) : character ∈ numeralCharacters := by
  obtain ⟨sign, known, digits, worths, -, areDigits, rfl, -⟩ := spells
  rcases List.mem_append.mp member with inSign | inDigits
  · have signs : ∀ sign ∈ Numeral.plusSigns, sign.all numeralCharacters.contains = true := by
      decide
    exact List.contains_iff_mem.mp (List.all_eq_true.mp (signs sign known) character inSign)
  · obtain ⟨worth, digit⟩ := Numeral.exists_of_mem areDigits character inDigits
    exact mem_numeralCharacters_of_isDigit character worth digit

/-- A numeral has a first character. -/
theorem exists_head {numeral : List Char} {index : Nat} (spells : Spells 10 numeral index) :
    ∃ first ∈ numeralCharacters, numeral.head? = some first := by
  cases numeral with
  | nil =>
    obtain ⟨sign, -, digits, worths, present, -, empty, -⟩ := spells
    exact absurd (List.append_eq_nil_iff.mp empty.symm).2 present
  | cons first rest => exact ⟨first, mem_numeralCharacters spells first List.mem_cons_self, rfl⟩

/-- A tag or none is taken away from a numeral. -/
theorem Apart.withoutTag_append {tags : List (List Char)} (apart : Apart tags) {tag : List Char}
    (known : tag ∈ [] :: tags) {numeral : List Char} {index : Nat}
    (spells : Spells 10 numeral index) : withoutTag tags (tag ++ numeral) = numeral := by
  rw [withoutTag]
  cases found : tags.findSome? fun other => other.isPrefixOf? (tag ++ numeral) with
  | none =>
    rcases List.mem_cons.mp known with rfl | member
    · rfl
    · have missed := List.findSome?_eq_none_iff.mp found tag member
      have fits := List.isPrefixOf?_eq_some_iff_append_eq.mpr (rfl : tag ++ numeral = _)
      exact nomatch missed.symm.trans fits
  | some rest =>
    obtain ⟨other, listed, fits⟩ := List.exists_of_findSome?_eq_some found
    have same : other ++ rest = tag ++ numeral := List.isPrefixOf?_eq_some_iff_append_eq.mp fits
    have begins : other.head? = (tag ++ numeral).head? := by
      rw [← same, List.head?_append_of_ne_nil other (apart.present other listed)]
    rcases List.mem_cons.mp known with rfl | member
    · obtain ⟨first, inNumeral, head⟩ := exists_head spells
      have noNumeral := apart.heads other listed
      rw [begins.trans head, Option.any_some, List.contains_iff_mem.mpr inNumeral] at noNumeral
      exact nomatch noNumeral
    · rw [List.head?_append_of_ne_nil tag (apart.present tag member)] at begins
      rw [apart.distinct other listed tag member begins] at same
      exact List.append_cancel_left same

/-- Every word is a tag or none and what is left of it. -/
theorem exists_tag (tags : List (List Char)) (word : List Char) :
    ∃ tag ∈ [] :: tags, word = tag ++ withoutTag tags word := by
  rw [withoutTag]
  cases found : tags.findSome? fun tag => tag.isPrefixOf? word with
  | none => exact ⟨[], List.mem_cons_self, rfl⟩
  | some rest =>
    obtain ⟨tag, listed, fits⟩ := List.exists_of_findSome?_eq_some found
    exact ⟨tag, List.mem_cons_of_mem _ listed,
      (List.isPrefixOf?_eq_some_iff_append_eq.mp fits).symm⟩

/-- A word is read as the number that it stands for, and no other word is. -/
theorem Apart.number?_eq_some_iff {tags : List (List Char)} (apart : Apart tags)
    (word : List Char) (index : UInt8) :
    number? tags word = some index ↔ Numbered ([] :: tags) word index.toNat := by
  constructor
  · intro read
    rw [number?] at read
    cases outcome : Numeral.read 10 255 (withoutTag tags word) with
    | error flaw =>
      rw [outcome] at read
      exact nomatch read
    | ok number =>
      rw [outcome] at read
      obtain ⟨spells, within⟩ := (Numeral.read_eq_ok_iff (by decide) _ number).mp outcome
      obtain ⟨tag, known, split⟩ := exists_tag tags word
      have same : index.toNat = number := by
        rw [← Option.some.inj read]
        exact UInt8.toNat_ofNat_of_lt' (Nat.lt_succ_of_le within)
      rw [same]
      exact ⟨tag, known, _, spells, within, split⟩
  · rintro ⟨tag, known, numeral, spells, within, rfl⟩
    rw [number?, apart.withoutTag_append known spells,
      Numeral.read_of_spells (by decide) numeral _ spells within]
    exact congrArg some UInt8.ofNat_toNat

/-! ## Forms of a word -/

/-- What is done to characters one by one, and nothing to those of numerals, is
done to the tag of a word. -/
theorem Numbered.map {tags : List (List Char)} {word : List Char} {index : Nat}
    (numbered : Numbered tags word index) (change : Char → Char)
    (kept : numeralCharacters.map change = numeralCharacters) :
    Numbered (tags.map (List.map change)) (word.map change) index := by
  obtain ⟨tag, known, numeral, spells, within, rfl⟩ := numbered
  have each := List.map_inj_left.mp (kept.trans (List.map_id numeralCharacters).symm)
  have unchanged : numeral.map change = numeral.map id :=
    List.map_congr_left fun character member =>
      each character (mem_numeralCharacters spells character member)
  refine ⟨tag.map change, List.mem_map_of_mem known, numeral, spells, within, ?_⟩
  rw [List.map_append, unchanged, List.map_id]

/-- A word that stands for a number holds no blank. -/
theorem Numbered.not_isBlank {word : List Char} {index : Nat}
    (numbered : Numbered numberTags word index) :
    ∀ character ∈ word, Text.isBlank character = false := by
  obtain ⟨tag, known, numeral, spells, -, rfl⟩ := numbered
  have inTags : ∀ tag ∈ numberTags, tag.all (!Text.isBlank ·) = true := by decide
  have inNumerals : numeralCharacters.all (!Text.isBlank ·) = true := by decide
  intro character member
  rw [← Bool.not_eq_true']
  rcases List.mem_append.mp member with inTag | inNumeral
  · exact List.all_eq_true.mp (inTags tag known) character inTag
  · exact List.all_eq_true.mp inNumerals character
      (mem_numeralCharacters spells character inNumeral)

/-- Hyphens are no part of a word that stands for a number, and turning them into
underscores makes none of any other word, as underscores are no part of it
either. -/
theorem numbered_underscored_iff (word : List Char) (index : Nat) :
    Numbered numberTags (word.map underscored) index ↔ Numbered numberTags word index := by
  constructor
  · intro numbered
    have noUnderscore : '_' ∉ word.map underscored := by
      obtain ⟨tag, known, numeral, spells, -, split⟩ := numbered
      rw [split, List.mem_append, not_or]
      refine ⟨?_, fun member => ?_⟩
      · exact (by decide : ∀ tag ∈ numberTags, '_' ∉ tag) tag known
      · exact absurd (mem_numeralCharacters spells '_' member) (by decide)
    have unchanged : word.map underscored = word.map id := by
      apply List.map_congr_left
      intro character member
      by_cases hyphen : character = '-'
      · subst hyphen
        exact absurd (List.mem_map_of_mem member) noUnderscore
      · exact if_neg hyphen
    rw [unchanged, List.map_id] at numbered
    exact numbered
  · intro numbered
    exact numbered.map underscored (by decide)

/-- The known command of a number has this number. -/
theorem index_of_ofIndex? (index : UInt8) (command : Command)
    (known : ofIndex? index = some command) : command.index = index := by
  rw [ofIndex?] at known
  have found := List.find?_some known
  exact beq_iff_eq.mp found

/-! ## Names -/

/-- A word is checked for the name of a command. -/
theorem isNamed_iff (word : List Char) (command : Command) :
    isNamed word command = true ↔ Named word command := by
  simp only [isNamed, Named, Bool.or_eq_true, beq_iff_eq, List.isPrefixOf?_eq_some_iff_append_eq]
  rw [eq_comm (a := ['S', 'D', '_'] ++ word)]

/-- No two commands have the same name. -/
theorem name_injective (command other : Command)
    (same : command.name.toList = other.name.toList) : command = other :=
  (by decide : ∀ command ∈ all, ∀ other ∈ all,
    command.name.toList = other.name.toList → command = other)
    command command.mem_all other other.mem_all same

/-- The name of no command is what may be left out of another one. -/
theorem name_ne_shortened (command other : Command) :
    other.name.toList ≠ ['S', 'D', '_'] ++ command.name.toList :=
  (by decide : ∀ command ∈ all, ∀ other ∈ all,
    other.name.toList ≠ ['S', 'D', '_'] ++ command.name.toList)
    command command.mem_all other other.mem_all

/-- The name of a command stands for it. -/
theorem ofText?_name (command : Command) : ofText? command.name = some command := by
  cases command <;> decide

/-- A word is the name of one command only. -/
theorem Named.unique {word : List Char} {command other : Command} (named : Named word command)
    (again : Named word other) : command = other := by
  rcases named with rfl | shortened
  · rcases again with same | shortened
    · exact name_injective command other same.symm
    · exact absurd shortened (name_ne_shortened command other)
  · rcases again with rfl | same
    · exact absurd shortened (name_ne_shortened other command)
    · exact name_injective command other (shortened.trans same.symm)

/-! ## Texts -/

section Texts

variable {text : String} {core : List Char} (trimmed : Text.Trimmed text.toList core)

include trimmed

/-- The word of a text is its core in capitals. -/
theorem capitals_eq : capitals text = core.map Char.toUpper := by
  rw [capitals, ← trimmed.eq_trim]

/-- A text stands for the command of its number, if the number has one. -/
theorem ofText?_of_numbered (index : Nat)
    (numbered : Numbered numberTags (core.map Char.toUpper) index) :
    ofText? text = ofIndex? (UInt8.ofNat index) := by
  have read : number? capitalTags ((core.map Char.toUpper).map underscored) =
      some (UInt8.ofNat index) := by
    rw [apart_capitalTags.number?_eq_some_iff, numbered.toNat_ofNat]
    exact (numbered_underscored_iff _ index).mpr numbered
  simp only [ofText?, capitals_eq trimmed, read]

/-- A text that stands for no number is looked up as a name. -/
theorem ofText?_of_not_numbered
    (noNumber : ∀ index, ¬ Numbered numberTags (core.map Char.toUpper) index) :
    ofText? text = all.find? (isNamed ((core.map Char.toUpper).map underscored)) := by
  have unread : number? capitalTags ((core.map Char.toUpper).map underscored) = none := by
    rw [Option.eq_none_iff_forall_ne_some]
    intro index read
    have numbered := (apart_capitalTags.number?_eq_some_iff _ index).mp read
    exact noNumber _ ((numbered_underscored_iff _ _).mp numbered)
  simp only [ofText?, capitals_eq trimmed, unread]

/-- A name stands for its command. -/
theorem ofText?_of_named
    (noNumber : ∀ index, ¬ Numbered numberTags (core.map Char.toUpper) index) (command : Command)
    (named : Named ((core.map Char.toUpper).map underscored) command) :
    ofText? text = some command := by
  rw [ofText?_of_not_numbered trimmed noNumber]
  cases found : all.find? (isNamed ((core.map Char.toUpper).map underscored)) with
  | none =>
    have missed := List.find?_eq_none.mp found command command.mem_all
    exact absurd ((isNamed_iff _ _).mpr named) missed
  | some other =>
    have again := (isNamed_iff _ _).mp (List.find?_some found)
    rw [again.unique named]

/-- Nothing else stands for a command. -/
theorem ofText?_of_neither
    (noNumber : ∀ index, ¬ Numbered numberTags (core.map Char.toUpper) index)
    (noName : ∀ command, ¬ Named ((core.map Char.toUpper).map underscored) command) :
    ofText? text = none := by
  rw [ofText?_of_not_numbered trimmed noNumber, List.find?_eq_none]
  intro command _ named
  exact noName command ((isNamed_iff _ _).mp named)

end Texts

end CardCrc.Command
