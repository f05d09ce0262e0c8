import CardCrc.Text.Blank

/-!
# Trimming

The core of a text is what is left when the blanks at both ends are taken away:
it stands between blanks and neither begins nor ends with one. A text has one
core only, and trimming finds it.
-/

namespace CardCrc.Text

/-- The core of a text stands between blanks and has none at its own ends. -/
structure Trimmed (text core : List Char) : Prop where
  /-- Around the core there are only blanks. -/
  split : ∃ front back, text = front ++ (core ++ back) ∧
    (∀ character ∈ front, isBlank character = true) ∧
    ∀ character ∈ back, isBlank character = true
  /-- The core does not begin with a blank. -/
  head : ∀ character, core.head? = some character → isBlank character = false
  /-- The core does not end with a blank. -/
  last : ∀ character, core.getLast? = some character → isBlank character = false

/-- What holds no blank is the core of a text that has it between blanks. -/
theorem trimmed_between {core : List Char}
    (blankless : ∀ character ∈ core, isBlank character = false) (front back : List Char)
    (frontBlanks : ∀ character ∈ front, isBlank character = true)
    (backBlanks : ∀ character ∈ back, isBlank character = true) :
    Trimmed (front ++ (core ++ back)) core where
  split := ⟨front, back, rfl, frontBlanks, backBlanks⟩
  head character first := blankless character (List.mem_of_head? first)
  last character final := blankless character (List.mem_of_getLast? final)

/-- What holds no blank is its own core. -/
theorem trimmed_self {core : List Char}
    (blankless : ∀ character ∈ core, isBlank character = false) : Trimmed core core := by
  have trimmed := trimmed_between blankless [] [] (List.forall_mem_nil _) (List.forall_mem_nil _)
  rw [List.nil_append, List.append_nil] at trimmed
  exact trimmed

/-- Blanks in front of something else are dropped up to it. -/
theorem trimFront_blanks (front rest : List Char)
    (blanks : ∀ character ∈ front, isBlank character = true)
    (boundary : ∀ character, rest.head? = some character → isBlank character = false) :
    trimFront (front ++ rest) = rest := by
  rw [trimFront, List.dropWhile_append_of_pos blanks]
  cases rest with
  | nil => rfl
  | cons character rest =>
    exact List.dropWhile_cons_of_neg (by rw [boundary character rfl]; exact Bool.false_ne_true)

/-- Nothing is left of blanks alone. -/
theorem trimFront_of_blanks (text : List Char)
    (blanks : ∀ character ∈ text, isBlank character = true) : trimFront text = [] := by
  have dropped := trimFront_blanks text [] blanks (fun _ impossible => nomatch impossible)
  rw [List.append_nil] at dropped
  exact dropped

/-- What is left does not begin with a blank. -/
theorem head_trimFront (text : List Char) (character : Char)
    (first : (trimFront text).head? = some character) : isBlank character = false := by
  have boundary := List.head?_dropWhile_not isBlank text
  rw [← trimFront, first] at boundary
  exact boundary

/-- What is dropped in front is blanks. -/
theorem exists_trimFront (text : List Char) : ∃ front, text = front ++ trimFront text ∧
    ∀ character ∈ front, isBlank character = true :=
  ⟨text.takeWhile isBlank, List.takeWhile_append_dropWhile.symm,
    List.all_eq_true.mp List.all_takeWhile⟩

/-- Trimming finds the core. -/
theorem trimmed_trim (text : List Char) : Trimmed text (trim text) := by
  obtain ⟨front, dropped, frontBlanks⟩ := exists_trimFront text
  obtain ⟨back, rest, backBlanks⟩ := exists_trimFront (trimFront text).reverse
  have inner : trimFront text = trim text ++ back.reverse := by
    rw [trim, ← List.reverse_append, ← rest, List.reverse_reverse]
  refine ⟨⟨front, back.reverse, ?_, frontBlanks, ?_⟩, ?_, ?_⟩
  · rw [← inner]
    exact dropped
  · intro character member
    exact backBlanks character (List.mem_reverse.mp member)
  · intro character first
    apply head_trimFront text character
    rw [inner, List.head?_append, first]
    rfl
  · intro character final
    rw [trim, List.getLast?_reverse] at final
    exact head_trimFront _ character final

/-- A text has no other core. -/
theorem Trimmed.eq_trim {text core : List Char} (trimmed : Trimmed text core) :
    core = trim text := by
  obtain ⟨⟨front, back, rfl, frontBlanks, backBlanks⟩, head, last⟩ := trimmed
  have backwards : ∀ character ∈ back.reverse, isBlank character = true :=
    fun character member => backBlanks character (List.mem_reverse.mp member)
  cases core with
  | nil =>
    have blanks : ∀ character ∈ front ++ ([] ++ back), isBlank character = true := by
      intro character member
      rcases List.mem_append.mp member with inFront | inBack
      · exact frontBlanks character inFront
      · exact backBlanks character inBack
    rw [trim, trimFront_of_blanks _ blanks]
    rfl
  | cons first rest =>
    have inner : trimFront (front ++ (first :: rest ++ back)) = first :: rest ++ back :=
      trimFront_blanks front _ frontBlanks head
    have outer : trimFront (first :: rest ++ back).reverse = (first :: rest).reverse := by
      rw [List.reverse_append]
      apply trimFront_blanks _ _ backwards
      intro character final
      rw [List.head?_reverse] at final
      exact last character final
    rw [trim, inner, outer, List.reverse_reverse]

end CardCrc.Text
