import CardCrc.HexText.Integer
import CardCrc.Proofs.Text.Digits
import CardCrc.Proofs.Text.Trimming

/-!
# The grammar of hex integers

A hex integer is a sign or none, a marker or none, and groups of digits with one
separator between two groups; behind a marker one further separator may open the
groups. The grammar says which texts these are and what number each stands for,
without regard to how they are read.

Reading takes exactly these texts. A text can be taken apart in one way only:
a group begins with a digit, which is neither a sign nor a separator, and no
digit is the letter of a marker. The number read is the number that the text
stands for, brought back to the largest magnitude if it is beyond it, and digits
that follow cannot undo this.
-/

namespace CardCrc.HexText

open Numeral (StandsFor StandFor number)

/-- What may stand in front as a sign. -/
def signs : List (List Char) := [[], ['+'], ['-']]

/-- What may stand between the sign and the groups. -/
def markers : List (List Char) := [[], ['0', 'x'], ['0', 'X'], ['0', 'x', '_'], ['0', 'X', '_']]

/-- The text is groups of digits with one separator between two of them, and the
digits stand for these numbers. -/
def Grouped (text : List Char) (worths : List Nat) : Prop :=
  ∃ groups : List (List Char), groups ≠ [] ∧ (∀ group ∈ groups, group ≠ []) ∧
    StandFor groups.flatten worths ∧ text = ['_'].intercalate groups

/-- The text is a hex integer and stands for this number. -/
def Denotes (text : List Char) (value : Int) : Prop :=
  ∃ sign ∈ signs, ∃ marker ∈ markers, ∃ body worths, Grouped body worths ∧
    text = sign ++ (marker ++ body) ∧
    value = if sign = ['-'] then -(number 16 worths : Int) else number 16 worths

/-- A number brought back to the largest magnitude on either side. -/
def saturated (value : Int) : Int := max (-(largestMagnitude : Int)) (min value largestMagnitude)

/-! ## Digits -/

/-- A separator is no digit. -/
theorem not_standsFor_separator (worth : Nat) : ¬ StandsFor '_' worth := by
  rw [← Numeral.digit?_sixteen_iff, show Numeral.digit? 16 '_' = none by decide]
  exact nofun

/-- Behind digits, reading goes on with the number they stand for, or with the
largest magnitude if that is smaller. A magnitude that is brought back once stays
at the largest. -/
theorem readMagnitude_append_of_standFor (seen : List Nat) (digits : List Char)
    (worths : List Nat) (stand : StandFor digits worths) (rest : List Char) :
    readMagnitude (min (number 16 seen) largestMagnitude) (digits ++ rest) =
      readMagnitude (min (number 16 (seen ++ worths)) largestMagnitude) rest := by
  induction stand generalizing seen with
  | nil => rw [List.nil_append, List.append_nil]
  | @cons character worth digits worths first _ inductionHypothesis =>
    have later := inductionHypothesis (seen ++ [worth])
    have next : min (16 * min (number 16 seen) largestMagnitude + worth) largestMagnitude =
        min (number 16 (seen ++ [worth])) largestMagnitude := by
      rw [Numeral.number_concat]
      omega
    rw [List.append_assoc] at later
    simp only [List.cons_append, readMagnitude, Numeral.digit?_of_standsFor character worth first,
      next]
    exact later

/-- Digits alone are read as this. -/
theorem readMagnitude_of_standFor (seen : List Nat) (digits : List Char) (worths : List Nat)
    (stand : StandFor digits worths) :
    readMagnitude (min (number 16 seen) largestMagnitude) digits =
      .ok (min (number 16 (seen ++ worths)) largestMagnitude) := by
  have whole := readMagnitude_append_of_standFor seen digits worths stand []
  rw [List.append_nil] at whole
  exact whole

/-- Characters that are not all digits are refused for one that is none. -/
theorem readMagnitude_of_not_standFor (magnitude : Nat) (digits : List Char)
    (noDigits : ∀ worths, ¬ StandFor digits worths) :
    ∃ character ∈ digits, readMagnitude magnitude digits = .error (.badHexDigit character) := by
  induction digits generalizing magnitude with
  | nil => exact absurd List.Forall₂.nil (noDigits [])
  | cons character rest inductionHypothesis =>
    cases found : Numeral.digit? 16 character with
    | none => exact ⟨character, List.mem_cons_self, by simp only [readMagnitude, found]⟩
    | some worth =>
      have first : StandsFor character worth := (Numeral.digit?_sixteen_iff _ _).mp found
      have noRest : ∀ worths, ¬ StandFor rest worths :=
        fun worths stand => noDigits (worth :: worths) (List.Forall₂.cons first stand)
      obtain ⟨bad, member, refused⟩ := inductionHypothesis
        (min (16 * magnitude + worth) largestMagnitude) noRest
      exact ⟨bad, List.mem_cons_of_mem character member, by
        simp only [readMagnitude, found, refused]⟩

/-! ## Groups -/

/-- Groups are found again by their separators. -/
theorem splitOn_groups (groups : List (List Char)) (worths : List Nat) (present : groups ≠ [])
    (stand : StandFor groups.flatten worths) :
    (['_'].intercalate groups).splitOn '_' = groups := by
  apply List.splitOn_intercalate '_' _ present
  intro group member separator
  have inside : '_' ∈ groups.flatten := List.mem_flatten.mpr ⟨group, member, separator⟩
  obtain ⟨worth, stands⟩ := Numeral.exists_of_mem stand '_' inside
  exact not_standsFor_separator worth stands

/-- Groups of digits are read as the number they stand for, brought back to the
largest magnitude. -/
theorem readGroups_of_grouped (text : List Char) (worths : List Nat)
    (grouped : Grouped text worths) :
    readGroups text = .ok (min (number 16 worths) largestMagnitude) := by
  obtain ⟨groups, present, nonempty, stand, rfl⟩ := grouped
  have split := splitOn_groups groups worths present stand
  have noneEmpty : groups.any List.isEmpty = false := by
    rw [List.any_eq_false]
    intro group member
    simpa using nonempty group member
  have written : (['_'].intercalate groups).isEmpty = false := by
    rw [List.isEmpty_eq_false_iff]
    intro absent
    rw [absent, List.splitOn_nil] at split
    exact nonempty [] (split ▸ List.mem_cons_self) rfl
  simp only [readGroups, written, Bool.false_eq_true, if_false, split, noneEmpty]
  exact readMagnitude_of_standFor [] groups.flatten worths stand

/-- Everything else is refused. -/
theorem readGroups_of_not_grouped (text : List Char)
    (noGroups : ∀ worths, ¬ Grouped text worths) :
    ∃ complaint, readGroups text = .error complaint := by
  by_cases absent : text.isEmpty = true
  · exact ⟨.noHexDigits, by simp only [readGroups, absent, if_true]⟩
  · by_cases misplaced : (text.splitOn '_').any List.isEmpty = true
    · exact ⟨.misplacedSeparator, by
      simp only [readGroups, absent, misplaced, Bool.false_eq_true, if_false, if_true]⟩
    · have noDigits : ∀ worths, ¬ StandFor (text.splitOn '_').flatten worths := by
        intro worths stand
        apply noGroups worths
        refine ⟨text.splitOn '_', List.splitOn_ne_nil '_' text, ?_, stand,
          (List.intercalate_splitOn '_').symm⟩
        intro group member empty
        exact misplaced (List.any_eq_true.mpr ⟨group, member, by rw [empty]; rfl⟩)
      obtain ⟨character, -, refused⟩ := readMagnitude_of_not_standFor 0 _ noDigits
      exact ⟨.badHexDigit character, by
        simp only [readGroups, absent, misplaced, Bool.false_eq_true, if_false, refused]⟩

/-- Groups contain digits and separators only. -/
theorem mem_intercalate (groups : List (List Char)) (character : Char)
    (member : character ∈ ['_'].intercalate groups) :
    character = '_' ∨ character ∈ groups.flatten := by
  induction groups with
  | nil => exact nomatch member
  | cons group rest inductionHypothesis =>
    cases rest with
    | nil =>
      rw [List.intercalate_singleton] at member
      exact Or.inr (List.mem_append_left _ member)
    | cons next rest =>
      rw [List.intercalate_cons_cons, List.append_assoc] at member
      rcases List.mem_append.mp member with inGroup | later
      · exact Or.inr (List.mem_append_left _ inGroup)
      · rcases List.mem_cons.mp later with separator | inRest
        · exact Or.inl separator
        · exact (inductionHypothesis inRest).imp_right (List.mem_append_right group)

/-- A character of groups that is no separator is a digit. -/
theorem Grouped.exists_standsFor {text : List Char} {worths : List Nat}
    (grouped : Grouped text worths) (character : Char) (member : character ∈ text)
    (different : character ≠ '_') : ∃ worth, StandsFor character worth := by
  obtain ⟨groups, -, -, stand, rfl⟩ := grouped
  rcases mem_intercalate groups character member with separator | inside
  · exact absurd separator different
  · exact Numeral.exists_of_mem stand character inside

/-- Groups begin with a digit. -/
theorem Grouped.exists_first {text : List Char} {worths : List Nat}
    (grouped : Grouped text worths) :
    ∃ first rest worth, text = first :: rest ∧ StandsFor first worth := by
  obtain ⟨groups, present, nonempty, stand, rfl⟩ := grouped
  cases groups with
  | nil => exact absurd rfl present
  | cons group others =>
    cases group with
    | nil => exact absurd rfl (nonempty [] List.mem_cons_self)
    | cons first rest =>
      obtain ⟨worth, stands⟩ := Numeral.exists_of_mem stand first List.mem_cons_self
      cases others with
      | nil => exact ⟨first, rest, worth, List.intercalate_singleton, stands⟩
      | cons next others =>
        exact ⟨first, _, worth, List.intercalate_cons_cons, stands⟩

/-! ## Signs and markers -/

/-- No groups begin with a character that is no digit. -/
theorem Grouped.ne_cons {text : List Char} {worths : List Nat} (grouped : Grouped text worths)
    (character : Char) (noDigit : Numeral.digit? 16 character = none) (rest : List Char) :
    text ≠ character :: rest := by
  rintro rfl
  obtain ⟨first, _, worth, same, stands⟩ := grouped.exists_first
  rw [← (List.cons.inj same).1, ← Numeral.digit?_sixteen_iff, noDigit] at stands
  exact nomatch stands

/-- A marker is a zero and its letter in either case. -/
theorem afterMarker?_eq_some_iff (text rest : List Char) :
    afterMarker? text = some rest ↔ text = '0' :: 'x' :: rest ∨ text = '0' :: 'X' :: rest := by
  constructor
  · intro found
    unfold afterMarker? at found
    split at found
    case h_1 => exact Or.inl (by rw [Option.some.inj found])
    case h_2 => exact Or.inr (by rw [Option.some.inj found])
    case h_3 => exact nomatch found
  · rintro (rfl | rfl)
    · rfl
    · rfl

/-- A text that does not hold the letter of a marker does not begin with one. -/
theorem afterMarker?_eq_none {text : List Char} (noSmall : 'x' ∉ text) (noCapital : 'X' ∉ text) :
    afterMarker? text = none := by
  rw [Option.eq_none_iff_forall_ne_some]
  intro rest found
  rcases (afterMarker?_eq_some_iff text rest).mp found with rfl | rfl
  · exact noSmall (by simp)
  · exact noCapital (by simp)

/-- Groups hold digits and separators only. -/
theorem Grouped.notMem {text : List Char} {worths : List Nat} (grouped : Grouped text worths)
    (character : Char) (noDigit : Numeral.digit? 16 character = none)
    (noSeparator : character ≠ '_') : character ∉ text := by
  intro member
  obtain ⟨worth, stands⟩ := grouped.exists_standsFor character member noSeparator
  rw [← Numeral.digit?_sixteen_iff, noDigit] at stands
  exact nomatch stands

/-- Groups are not taken for a marker, as its letter is no digit. -/
theorem Grouped.afterMarker?_eq_none {text : List Char} {worths : List Nat}
    (grouped : Grouped text worths) : afterMarker? text = none :=
  HexText.afterMarker?_eq_none (grouped.notMem 'x' (by decide) (by decide))
    (grouped.notMem 'X' (by decide) (by decide))

/-- Behind a marker the groups begin at once or after one separator. -/
theorem digitPart_eq (unsigned rest : List Char) (marked : afterMarker? unsigned = some rest) :
    (∃ others, rest = '_' :: others ∧ digitPart unsigned = others) ∨
      ((∀ others, rest ≠ '_' :: others) ∧ digitPart unsigned = rest) := by
  unfold digitPart
  rw [marked]
  split
  case h_1 others same => exact Or.inl ⟨others, Option.some.inj same, rfl⟩
  case h_2 other noSeparator same =>
    rw [Option.some.inj same]
    exact Or.inr ⟨fun others separated => noSeparator others (by rw [separated]), rfl⟩
  case h_3 impossible => exact nomatch impossible

/-- Groups are found behind a marker. -/
theorem Grouped.digitPart_marker {body : List Char} {worths : List Nat}
    (grouped : Grouped body worths) (marker : List Char) (known : marker ∈ markers) :
    digitPart (marker ++ body) = body := by
  have atOnce (unsigned : List Char) (marked : afterMarker? unsigned = some body) :
      digitPart unsigned = body := by
    rcases digitPart_eq unsigned body marked with ⟨others, separated, -⟩ | ⟨-, found⟩
    · exact absurd separated (grouped.ne_cons '_' (by decide) others)
    · exact found
  simp only [markers, List.mem_cons, List.not_mem_nil, or_false] at known
  rcases known with rfl | rfl | rfl | rfl | rfl
  · simp only [List.nil_append, digitPart, grouped.afterMarker?_eq_none]
  · exact atOnce _ rfl
  · exact atOnce _ rfl
  · rfl
  · rfl

/-- Every text is a marker or none and the part in which its groups are
expected. -/
theorem exists_marker (unsigned : List Char) :
    ∃ marker ∈ markers, unsigned = marker ++ digitPart unsigned := by
  cases marked : afterMarker? unsigned with
  | none =>
    refine ⟨[], by decide, ?_⟩
    simp only [List.nil_append, digitPart, marked]
  | some rest =>
    rcases digitPart_eq unsigned rest marked with ⟨others, rfl, found⟩ | ⟨-, found⟩
    · rw [found]
      rcases (afterMarker?_eq_some_iff _ _).mp marked with rfl | rfl
      · exact ⟨['0', 'x', '_'], by decide, rfl⟩
      · exact ⟨['0', 'X', '_'], by decide, rfl⟩
    · rw [found]
      rcases (afterMarker?_eq_some_iff _ _).mp marked with rfl | rfl
      · exact ⟨['0', 'x'], by decide, rfl⟩
      · exact ⟨['0', 'X'], by decide, rfl⟩

/-- A sign in front of something that does not begin with one is found. -/
theorem splitSign_sign (sign : List Char) (known : sign ∈ signs) (unsigned : List Char)
    (noMinus : ∀ rest, unsigned ≠ '-' :: rest) (noPlus : ∀ rest, unsigned ≠ '+' :: rest) :
    splitSign (sign ++ unsigned) = (decide (sign = ['-']), unsigned) := by
  simp only [signs, List.mem_cons, List.not_mem_nil, or_false] at known
  rcases known with rfl | rfl | rfl
  · rw [List.nil_append]
    unfold splitSign
    split
    case h_1 rest => exact absurd rfl (noMinus rest)
    case h_2 rest => exact absurd rfl (noPlus rest)
    case h_3 => rfl
  · rfl
  · rfl

/-- Every text is a sign or none and what follows it. -/
theorem exists_sign (text : List Char) :
    ∃ sign ∈ signs, text = sign ++ (splitSign text).2 ∧
      (splitSign text).1 = decide (sign = ['-']) := by
  unfold splitSign
  split
  case h_1 rest => exact ⟨['-'], by decide, rfl, rfl⟩
  case h_2 rest => exact ⟨['+'], by decide, rfl, rfl⟩
  case h_3 => exact ⟨[], by decide, rfl, rfl⟩

/-! ## Integers -/

/-- Neither a marker nor groups begin with a sign. -/
theorem Grouped.marker_ne_cons {body : List Char} {worths : List Nat}
    (grouped : Grouped body worths) (marker : List Char) (known : marker ∈ markers)
    (character : Char) (noDigit : Numeral.digit? 16 character = none) (rest : List Char) :
    marker ++ body ≠ character :: rest := by
  have noZero : '0' ≠ character := by
    rintro rfl
    exact nomatch noDigit
  simp only [markers, List.mem_cons, List.not_mem_nil, or_false] at known
  rcases known with rfl | rfl | rfl | rfl | rfl
  · exact grouped.ne_cons character noDigit rest
  all_goals exact fun same => noZero (List.cons.inj same).1

/-- The text of an integer is read as the number it stands for, brought back to
the largest magnitude. -/
theorem readInteger_of_denotes (text core : List Char) (trimmed : Text.Trimmed text core)
    (value : Int) (denotes : Denotes core value) : readInteger text = .ok (saturated value) := by
  obtain ⟨sign, known, marker, marks, body, worths, grouped, rfl, rfl⟩ := denotes
  have split := splitSign_sign sign known (marker ++ body)
    (grouped.marker_ne_cons marker marks '-' (by decide))
    (grouped.marker_ne_cons marker marks '+' (by decide))
  simp only [readInteger, ← trimmed.eq_trim, split, grouped.digitPart_marker marker marks,
    readGroups_of_grouped body worths grouped, bind, Except.bind, pure, Except.pure, Except.map,
    decide_eq_true_eq]
  apply congrArg Except.ok
  by_cases negative : sign = ['-']
  · simp only [negative, if_true, saturated]
    omega
  · simp only [negative, if_false, saturated]
    omega

/-- Every other text is refused. -/
theorem readInteger_of_not_denotes (text core : List Char) (trimmed : Text.Trimmed text core)
    (noInteger : ∀ value, ¬ Denotes core value) :
    ∃ complaint, readInteger text = .error complaint := by
  obtain ⟨sign, known, signed, -⟩ := exists_sign core
  obtain ⟨marker, marks, marked⟩ := exists_marker (splitSign core).2
  have noGroups : ∀ worths, ¬ Grouped (digitPart (splitSign core).2) worths := by
    intro worths grouped
    rw [marked] at signed
    exact noInteger _ ⟨sign, known, marker, marks, _, worths, grouped, signed, rfl⟩
  obtain ⟨complaint, refused⟩ := readGroups_of_not_grouped _ noGroups
  refine ⟨complaint, ?_⟩
  simp only [readInteger, ← trimmed.eq_trim, refused]
  rfl

end CardCrc.HexText
