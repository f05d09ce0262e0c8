import CardCrc.Proofs.Text.Numerals
import CardCrc.Text.Quoted

/-!
# What a quotation quotes

Inside a quotation a character is shown as itself, by a short escape or by its code
point. Which characters are shown as themselves depends on what is printable and
changes with the tables of characters. The mark and the backslash never are, and
this is all that is needed to read a quotation back.

A backslash opens an escape, and the character behind it tells a short escape from a
code point, whose digits end at the closing brace. So no two characters share a
piece, and no piece is the beginning of another one. No piece begins with the mark,
so the first mark that is not inside an escape ends the quotation. What follows it
can be anything and does not matter.
-/

namespace CardCrc.Text

/-- The letters of the short escapes and the characters they stand for. -/
def shortEscapes : List (Char × Char) :=
  [('0', '\x00'), ('t', '\t'), ('r', '\r'), ('n', '\n'), ('"', '"'), ('\\', '\\')]

/-- A piece of a quotation stands for a character. -/
inductive Shows : Char → List Char → Prop
  /-- A character other than the mark and the backslash may stand for itself. -/
  | itself (character : Char) (noMark : character ≠ '"') (noBackslash : character ≠ '\\') :
      Shows character [character]
  /-- Some characters have a letter of their own behind the backslash. -/
  | short (letter character : Char) (known : (letter, character) ∈ shortEscapes) :
      Shows character ['\\', letter]
  /-- Every character has a code point. -/
  | code (character : Char) : Shows character (codePointEscape character)

/-- A quotation shows the characters of a text one by one, with a mark in front of
them and a mark behind them. -/
def Quotes (text shown : List Char) : Prop :=
  ∃ pieces, List.Forall₂ Shows text pieces ∧ shown = '"' :: (pieces.flatten ++ ['"'])

/-! ## Pieces -/

/-- No letter of a short escape is that of a code point. -/
theorem letter_ne_code (letter character : Char) (known : (letter, character) ∈ shortEscapes) :
    letter ≠ 'u' :=
  (by decide : ∀ escape ∈ shortEscapes, escape.1 ≠ 'u') (letter, character) known

/-- A letter stands for one character only. -/
theorem shortEscapes_unique (letter character other : Char)
    (known : (letter, character) ∈ shortEscapes) (knownToo : (letter, other) ∈ shortEscapes) :
    character = other := by
  have distinct : ∀ escape ∈ shortEscapes, ∀ another ∈ shortEscapes,
      escape.1 = another.1 → escape.2 = another.2 := by decide
  exact distinct _ known _ knownToo rfl

/-- The digits of a code point end at the closing brace, and tell the character. -/
theorem codePointEscape_append_inj (first second : Char) (rest later : List Char)
    (same : codePointEscape first ++ rest = codePointEscape second ++ later) :
    first = second ∧ rest = later := by
  have absent (character : Char) : '\x7d' ∉ Nat.toDigits 16 character.toNat :=
    Numeral.notMem_toDigits 16 _ (by decide) (by decide) '\x7d' (by decide)
  simp only [codePointEscape, List.append_assoc, List.append_cancel_left_eq] at same
  obtain ⟨digits, behind⟩ := Numeral.append_gap_inj rfl (absent first) (absent second) same
  have codes := Numeral.toDigits_injective 16 (by decide) (by decide) digits
  exact ⟨Char.toNat_inj.mp codes, behind⟩

namespace Shows

/-- A piece does not begin with the mark. -/
theorem append_ne_mark {character : Char} {piece : List Char} (shows : Shows character piece)
    (rest later : List Char) : piece ++ rest ≠ '"' :: later := by
  intro same
  cases shows with
  | itself _ noMark => exact noMark (List.cons.inj same).1
  | short => exact absurd (List.cons.inj same).1 (by decide)
  | code => exact absurd (List.cons.inj same).1 (by decide)

/-- A character that stands for itself is not the beginning of an escape. -/
theorem itself_ne_escape {character : Char} (noBackslash : character ≠ '\\')
    (rest later : List Char) : [character] ++ rest ≠ '\\' :: later :=
  fun same => noBackslash (List.cons.inj same).1

/-- A short escape is not the beginning of a code point. -/
theorem short_ne_code {letter character : Char} (known : (letter, character) ∈ shortEscapes)
    (other : Char) (rest later : List Char) :
    ['\\', letter] ++ rest ≠ codePointEscape other ++ later :=
  fun same => letter_ne_code letter character known (List.cons.inj (List.cons.inj same).2).1

/-- Two pieces in front of the same text are one piece, and stand for the same
character. -/
theorem append_inj {first second : Char} {piece other : List Char} (shows : Shows first piece)
    (showsToo : Shows second other) {rest later : List Char}
    (same : piece ++ rest = other ++ later) : first = second ∧ rest = later := by
  cases shows with
  | itself first _ noBackslash =>
    cases showsToo with
    | itself => exact List.cons.inj same
    | short => exact absurd same (itself_ne_escape noBackslash rest _)
    | code => exact absurd same (itself_ne_escape noBackslash rest _)
  | short letter first known =>
    cases showsToo with
    | itself _ _ noBackslash => exact absurd same.symm (itself_ne_escape noBackslash later _)
    | short otherLetter _ knownToo =>
      obtain ⟨rfl, behind⟩ := List.cons.inj (List.cons.inj same).2
      exact ⟨shortEscapes_unique letter _ _ known knownToo, behind⟩
    | code => exact absurd same (short_ne_code known second rest later)
  | code =>
    cases showsToo with
    | itself _ _ noBackslash => exact absurd same.symm (itself_ne_escape noBackslash later _)
    | short _ _ knownToo => exact absurd same.symm (short_ne_code knownToo first later rest)
    | code => exact codePointEscape_append_inj first second rest later same

end Shows

/-! ## Whole quotations -/

/-- Pieces up to a mark tell the text, and end at the same mark.

The induction is on the pieces of one quotation. Its next piece is the next piece of
the other one too, as that one has not come to its mark either. -/
theorem eq_of_pieces_append_eq {text other : List Char} {pieces others : List (List Char)}
    (shows : List.Forall₂ Shows text pieces) (showsToo : List.Forall₂ Shows other others)
    {rest later : List Char}
    (same : pieces.flatten ++ '"' :: rest = others.flatten ++ '"' :: later) :
    text = other ∧ rest = later := by
  induction shows generalizing other others with
  | nil =>
    cases showsToo with
    | nil => exact ⟨rfl, (List.cons.inj same).2⟩
    | cons first _ =>
      rw [List.flatten_cons, List.append_assoc] at same
      exact absurd same.symm (first.append_ne_mark _ _)
  | cons first _ inductionHypothesis =>
    rw [List.flatten_cons, List.append_assoc] at same
    cases showsToo with
    | nil => exact absurd same (first.append_ne_mark _ _)
    | cons second behind =>
      rw [List.flatten_cons, List.append_assoc] at same
      obtain ⟨rfl, later⟩ := first.append_inj second same
      obtain ⟨rfl, rests⟩ := inductionHypothesis behind later
      exact ⟨rfl, rests⟩

/-- Two quotations in front of the same text are of the same text, and the same text
follows them. -/
theorem Quotes.append_inj {text other shown shownToo : List Char} (quotes : Quotes text shown)
    (quotesToo : Quotes other shownToo) {rest later : List Char}
    (same : shown ++ rest = shownToo ++ later) : text = other ∧ rest = later := by
  obtain ⟨pieces, shows, rfl⟩ := quotes
  obtain ⟨others, showsToo, rfl⟩ := quotesToo
  simp only [List.cons_append, List.append_assoc] at same
  exact eq_of_pieces_append_eq shows showsToo (List.cons.inj same).2

/-! ## The quotations that are written -/

/-- What is written for a character stands for it. -/
theorem shows_escaped (character : Char) : Shows character (escaped '"' character) := by
  rw [escaped]
  split
  case isTrue null => exact Shows.short '0' character (by rw [null]; decide)
  split
  case isTrue tab => exact Shows.short 't' character (by rw [tab]; decide)
  split
  case isTrue carriageReturn => exact Shows.short 'r' character (by rw [carriageReturn]; decide)
  split
  case isTrue lineFeed => exact Shows.short 'n' character (by rw [lineFeed]; decide)
  split
  case isTrue special =>
    rcases special with rfl | rfl
    · exact Shows.short '\\' '\\' (by decide)
    · exact Shows.short '"' '"' (by decide)
  case isFalse plain =>
    obtain ⟨noBackslash, noMark⟩ := not_or.mp plain
    split
    case isTrue => exact Shows.itself character noMark noBackslash
    case isFalse => exact Shows.code character

/-- A text is quoted by what is written for its characters. -/
theorem quotes_flatMap (text : List Char) (piece : Char → List Char)
    (shows : ∀ character, Shows character (piece character)) :
    Quotes text ('"' :: (text.flatMap piece ++ ['"'])) := by
  refine ⟨text.map piece, ?_, by rw [List.flatMap_def]⟩
  rw [List.forall₂_map_right_iff, List.forall₂_same]
  exact fun character _ => shows character

/-- The quotation of a text quotes it. -/
theorem quotes_quoted (text : List Char) : Quotes text (quoted text) :=
  quotes_flatMap text (escaped '"') shows_escaped

end CardCrc.Text
