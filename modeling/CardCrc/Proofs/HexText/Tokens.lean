import CardCrc.HexText.Dump

/-!
# The tokens of a text

A text is laid out as parts when they stand in it in order with separators
around them: at least one between two parts, and any number in front of the
first and behind the last. Parts that are not empty and hold no separator are
tokens. Every text is laid out as tokens in exactly one way, and these are the
tokens that reading finds.
-/

namespace CardCrc.HexText

/-- The text is these parts in order with separators around them. -/
inductive Laid : List Char → List (List Char) → Prop
  /-- An empty text has no parts. -/
  | nil : Laid [] []
  /-- A separator in front belongs to no part. -/
  | gap {text : List Char} {parts : List (List Char)} (separator : Char)
      (separates : isSeparator separator = true) (rest : Laid text parts) :
      Laid (separator :: text) parts
  /-- The last part may end the text. -/
  | last (part : List Char) : Laid part [part]
  /-- Any part may end at a separator. -/
  | next {text : List Char} {parts : List (List Char)} (part : List Char) (separator : Char)
      (separates : isSeparator separator = true) (rest : Laid text parts) :
      Laid (part ++ separator :: text) (part :: parts)

/-- A token is not empty and holds no separator. -/
structure IsToken (part : List Char) : Prop where
  /-- There is at least one character. -/
  present : part ≠ []
  /-- No character ends it early. -/
  whole : ∀ character ∈ part, isSeparator character = false

instance (part : List Char) : Decidable (IsToken part) :=
  decidable_of_iff (part ≠ [] ∧ part.all (!isSeparator ·) = true) (by
    constructor
    · rintro ⟨present, whole⟩
      exact ⟨present, by simpa using whole⟩
    · rintro ⟨present, whole⟩
      exact ⟨present, by simpa using whole⟩)

/-- The text is laid out as these tokens. -/
structure Divided (text : List Char) (parts : List (List Char)) : Prop where
  /-- The parts stand in the text in order. -/
  laid : Laid text parts
  /-- Every part is a token. -/
  areTokens : ∀ part ∈ parts, IsToken part

/-- A text has the tokens in front of a separator and those behind it. All that
is known of tokens follows from this. -/
theorem tokens_append_separator (before after : List Char) (separator : Char)
    (separates : isSeparator separator = true) :
    tokens (before ++ separator :: after) = tokens before ++ tokens after := by
  rw [tokens, List.splitOnP_append_cons before after separates, List.filter_append]
  rfl

/-- A separator in front makes no token. -/
theorem tokens_separator (separator : Char) (separates : isSeparator separator = true)
    (text : List Char) : tokens (separator :: text) = tokens text :=
  tokens_append_separator [] text separator separates

/-- A token is its own only token. -/
theorem IsToken.tokens_eq {part : List Char} (isToken : IsToken part) :
    tokens part = [part] := by
  have written : part.isEmpty = false := List.isEmpty_eq_false_iff.mpr isToken.present
  rw [tokens, List.splitOnP_eq_singleton isToken.whole]
  simp [written]

/-- The tokens that a text is laid out as are those that reading finds. -/
theorem Divided.tokens_eq {text : List Char} {parts : List (List Char)}
    (divided : Divided text parts) : tokens text = parts := by
  obtain ⟨laid, areTokens⟩ := divided
  induction laid with
  | nil => rfl
  | gap separator separates rest inductionHypothesis =>
    rw [tokens_separator separator separates, inductionHypothesis areTokens]
  | last part => exact (areTokens part List.mem_cons_self).tokens_eq
  | next part separator separates rest inductionHypothesis =>
    have first : IsToken part := areTokens part List.mem_cons_self
    have later := inductionHypothesis fun other member =>
      areTokens other (List.mem_cons_of_mem part member)
    rw [tokens_append_separator part _ separator separates, first.tokens_eq, later]
    rfl

/-- Every text begins with characters that are no separators, and then ends or
goes on with a separator. -/
theorem exists_first_separator (text : List Char) :
    ∃ front, (∀ character ∈ front, isSeparator character = false) ∧
      (text = front ∨ ∃ separator rest, isSeparator separator = true ∧
        text = front ++ separator :: rest) := by
  induction text with
  | nil => exact ⟨[], List.forall_mem_nil _, Or.inl rfl⟩
  | cons character text inductionHypothesis =>
    cases separates : isSeparator character with
    | true =>
      exact ⟨[], List.forall_mem_nil _, Or.inr ⟨character, text, separates, rfl⟩⟩
    | false =>
      obtain ⟨front, whole, ending⟩ := inductionHypothesis
      refine ⟨character :: front, List.forall_mem_cons.mpr ⟨separates, whole⟩, ?_⟩
      rcases ending with rfl | ⟨separator, rest, found, rfl⟩
      · exact Or.inl rfl
      · exact Or.inr ⟨separator, rest, found, rfl⟩

/-- Every text is laid out as the tokens that reading finds.

The induction is on the length of the text. Characters in front of the first
separator are a token unless there are none, and what follows the separator is
shorter. -/
theorem divided_tokens (text : List Char) : Divided text (tokens text) := by
  induction size : text.length using Nat.strongRecOn generalizing text with
  | ind length inductionHypothesis =>
    obtain ⟨front, whole, ending⟩ := exists_first_separator text
    rcases ending with rfl | ⟨separator, rest, separates, rfl⟩
    · by_cases present : text = []
      · subst present
        exact ⟨Laid.nil, List.forall_mem_nil _⟩
      · have isToken : IsToken text := ⟨present, whole⟩
        rw [isToken.tokens_eq]
        exact ⟨Laid.last text, List.forall_mem_singleton.mpr isToken⟩
    · have shorter : rest.length < length := by
        rw [← size, List.length_append, List.length_cons]
        omega
      obtain ⟨laid, areTokens⟩ := inductionHypothesis rest.length shorter rest rfl
      rw [tokens_append_separator front rest separator separates]
      by_cases present : front = []
      · subst present
        exact ⟨Laid.gap separator separates laid, areTokens⟩
      · have isToken : IsToken front := ⟨present, whole⟩
        rw [isToken.tokens_eq]
        exact ⟨Laid.next front separator separates laid,
          List.forall_mem_cons.mpr ⟨isToken, areTokens⟩⟩

/-- Parts are laid out with a single separator between two of them. -/
theorem laid_intercalate (separator : Char) (separates : isSeparator separator = true)
    (parts : List (List Char)) : Laid ([separator].intercalate parts) parts := by
  induction parts with
  | nil => exact Laid.nil
  | cons part parts inductionHypothesis =>
    cases parts with
    | nil =>
      rw [List.intercalate_singleton]
      exact Laid.last part
    | cons next parts =>
      rw [List.intercalate_cons_cons, List.append_assoc]
      exact Laid.next part separator separates inductionHypothesis

end CardCrc.HexText
