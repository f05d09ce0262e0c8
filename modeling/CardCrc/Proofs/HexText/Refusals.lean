import CardCrc.Proofs.HexText.Shapes

/-!
# Tokens that are refused

A token that has none of the shapes is refused, which is a matter of room. A
short token that is a hex integer between blanks has room for one character
beside a digit, or for two behind a marker, and only a few characters can stand
there. If it is no such integer, it is malformed. The only hex integer that is
left over is a negative digit, which is out of range. A long token is read as
packed digits and has no room for anything else.
-/

namespace CardCrc.HexText

open Numeral (StandsFor)

/-! ## Short tokens -/

/-- The only blank of one byte that separates no tokens is the vertical tab. -/
theorem eq_verticalTab (character : Char) (blank : Text.isBlank character = true)
    (noSeparator : isSeparator character = false) (narrow : character.utf8Size = 1) :
    character = '\x0b' := by
  have each : ∀ code < 128, Text.isBlank (Char.ofNat code) = true →
      isSeparator (Char.ofNat code) = false → Char.ofNat code = '\x0b' := by decide
  have small : character.toNat ≤ 127 :=
    UInt32.le_iff_toNat_le.mp (Char.utf8Size_eq_one_iff.mp narrow)
  have found := each character.toNat (Nat.lt_succ_of_le small)
  rw [Char.ofNat_toNat] at found
  exact found blank noSeparator

/-- Groups do not end with a separator, as an empty group would follow it. -/
theorem Grouped.ne_concat_separator {text : List Char} {worths : List Nat}
    (grouped : Grouped text worths) (front : List Char) : text ≠ front ++ ['_'] := by
  obtain ⟨groups, present, nonempty, stand, rfl⟩ := grouped
  intro written
  have split := splitOn_groups groups worths present stand
  have ended : (front ++ ['_']).splitOn '_' = front.splitOn '_' ++ [[]] :=
    List.splitOnP_append_cons front [] (beq_self_eq_true '_')
  rw [written, ended] at split
  exact nonempty [] (split ▸ List.mem_append_right _ List.mem_cons_self) rfl

/-- Two characters of groups are two digits. -/
theorem Grouped.exists_digits {first second : Char} {worths : List Nat}
    (grouped : Grouped [first, second] worths) :
    (∃ worth, StandsFor first worth) ∧ ∃ worth, StandsFor second worth := by
  obtain ⟨initial, rest, worth, same, stands⟩ := grouped.exists_first
  refine ⟨⟨worth, (List.cons.inj same).1 ▸ stands⟩, ?_⟩
  apply grouped.exists_standsFor second (by simp)
  rintro rfl
  exact grouped.ne_concat_separator [first] rfl

/-- Behind a character that begins no marker, a short token has room for a
single digit and nothing else. -/
theorem Grouped.lone {body : List Char} {worths : List Nat} (grouped : Grouped body worths)
    (character : Char) (noZero : character ≠ '0') (before back : List Char)
    (short : utf8Length (dropMarker (character :: (before ++ (body ++ back)))) ≤ 2) :
    character.utf8Size = 1 ∧ before = [] ∧ back = [] ∧
      ∃ digit worth, body = [digit] ∧ StandsFor digit worth := by
  have unmarked : afterMarker? (character :: (before ++ (body ++ back))) = none := by
    rw [Option.eq_none_iff_forall_ne_some]
    intro rest found
    rcases (afterMarker?_eq_some_iff _ rest).mp found with written | written
    · exact noZero (List.cons.inj written).1
    · exact noZero (List.cons.inj written).1
  rw [dropMarker_eq_self unmarked, utf8Length_cons] at short
  obtain ⟨digit, rest, worth, rfl, stands⟩ := grouped.exists_first
  have positive := character.utf8Size_pos
  have room := length_le_utf8Length (before ++ (digit :: rest ++ back))
  simp only [List.length_append, List.length_cons] at room
  have alone : before = [] ∧ rest = [] ∧ back = [] := by
    refine ⟨?_, ?_, ?_⟩
    · exact List.eq_nil_of_length_eq_zero (by omega)
    · exact List.eq_nil_of_length_eq_zero (by omega)
    · exact List.eq_nil_of_length_eq_zero (by omega)
  obtain ⟨rfl, rfl, rfl⟩ := alone
  exact ⟨by omega, rfl, rfl, digit, worth, rfl, stands⟩

/-- Behind a marker or none, two bytes have room for a digit, for two digits, or
for a digit and a vertical tab. -/
theorem Grouped.spells_narrow {body : List Char} {worths : List Nat}
    (grouped : Grouped body worths) (marker back : List Char) (known : marker ∈ plainMarkers)
    (blanks : ∀ character ∈ back, Text.isBlank character = true)
    (whole : ∀ character ∈ back, isSeparator character = false)
    (short : utf8Length (body ++ back) ≤ 2) : ∃ bytes, Spells (marker ++ (body ++ back)) bytes := by
  have bare : ∀ marker ∈ plainMarkers, (marker, []) ∈ surroundings := by decide
  have closed : ∀ marker ∈ plainMarkers, (marker, ['\x0b']) ∈ surroundings := by decide
  have room := (length_le_utf8Length (body ++ back)).trans short
  obtain ⟨first, rest, worth, rfl, stands⟩ := grouped.exists_first
  have size := utf8Size_of_standsFor stands
  cases rest with
  | nil =>
    cases back with
    | nil => exact ⟨_, Spells.single marker [] (bare marker known) first worth stands⟩
    | cons character others =>
      simp only [List.cons_append, List.nil_append, utf8Length_cons, List.length_cons] at short room
      have ended : others = [] := List.eq_nil_of_length_eq_zero (by omega)
      subst ended
      have positive := character.utf8Size_pos
      have tab := eq_verticalTab character (blanks character List.mem_cons_self)
        (whole character List.mem_cons_self) (by omega)
      subst tab
      exact ⟨_, Spells.single marker ['\x0b'] (closed marker known) first worth stands⟩
  | cons second others =>
    simp only [List.cons_append, List.length_cons, List.length_append] at room
    have ended : others = [] ∧ back = [] :=
      ⟨List.eq_nil_of_length_eq_zero (by omega), List.eq_nil_of_length_eq_zero (by omega)⟩
    obtain ⟨rfl, rfl⟩ := ended
    obtain ⟨⟨high, highStands⟩, low, lowStands⟩ := grouped.exists_digits
    exact ⟨_, Spells.pairs marker known [first, second] _
      (Paired.cons first second high low highStands lowStands Paired.nil) (List.cons_ne_nil _ _)⟩

/-- Behind a marker or none the groups are found, as neither a group nor a blank
begins with the letter of a marker. -/
theorem Grouped.dropMarker_append {body : List Char} {worths : List Nat}
    (grouped : Grouped body worths) (marker back : List Char) (known : marker ∈ plainMarkers)
    (blanks : ∀ character ∈ back, Text.isBlank character = true) :
    dropMarker (marker ++ (body ++ back)) = body ++ back := by
  have noLetter (letter : Char) (noDigit : Numeral.digit? 16 letter = none)
      (different : letter ≠ '_') (noBlank : Text.isBlank letter = false) :
      letter ∉ body ++ back := by
    rw [List.mem_append, not_or]
    refine ⟨grouped.notMem letter noDigit different, fun inBack => ?_⟩
    rw [blanks letter inBack] at noBlank
    exact nomatch noBlank
  exact dropMarker_plain marker known (body ++ back)
    (HexText.afterMarker?_eq_none (noLetter 'x' (by decide) (by decide) (by decide))
      (noLetter 'X' (by decide) (by decide) (by decide)))

/-- A short token that begins with a marker or with groups has a shape that is
read. -/
theorem Grouped.spells_unsigned {body : List Char} {worths : List Nat}
    (grouped : Grouped body worths) (marker back : List Char) (marks : marker ∈ markers)
    (blanks : ∀ character ∈ back, Text.isBlank character = true)
    (whole : ∀ character ∈ back, isSeparator character = false)
    (short : utf8Length (dropMarker (marker ++ (body ++ back))) ≤ 2) :
    ∃ bytes, Spells (marker ++ (body ++ back)) bytes := by
  have separated : ∀ marker ∈ markers, marker ∉ plainMarkers →
      marker = ['0', 'x', '_'] ∨ marker = ['0', 'X', '_'] := by decide
  by_cases plain : marker ∈ plainMarkers
  · rw [grouped.dropMarker_append marker back plain blanks] at short
    exact grouped.spells_narrow marker back plain blanks whole short
  -- A separator behind the marker is not dropped with it and takes one of two places.
  · rcases separated marker marks plain with rfl | rfl
    · obtain ⟨-, -, rfl, digit, worth, rfl, stands⟩ :=
        grouped.lone '_' (by decide) [] back short
      exact ⟨_, Spells.single ['0', 'x', '_'] [] (by decide) digit worth stands⟩
    · obtain ⟨-, -, rfl, digit, worth, rfl, stands⟩ :=
        grouped.lone '_' (by decide) [] back short
      exact ⟨_, Spells.single ['0', 'X', '_'] [] (by decide) digit worth stands⟩

/-- A digit behind a minus sign is zero or makes the token negative. -/
theorem minus_cases (digit : Char) (worth : Nat) (stands : StandsFor digit worth) :
    (∃ bytes, Spells ['-', digit] bytes) ∨ ∃ worth, Negative ['-', digit] worth := by
  by_cases zero : worth = 0
  · subst zero
    have same : digit = '0' := by
      rcases stands with found | found
      · exact (Option.some.inj found).symm
      · exact (Option.some.inj found).symm
    subst same
    exact Or.inl ⟨_, Spells.negativeZero⟩
  · exact Or.inr ⟨worth, digit, rfl, stands, zero⟩

/-- A short token that is a hex integer between blanks has a shape that is read
or is negative.

The cases are what the token begins with: a blank, a sign, or neither. Each of
them leaves room for little else. -/
theorem shape_of_denotes (token core : List Char)
    (whole : ∀ character ∈ token, isSeparator character = false)
    (trimmed : Text.Trimmed token core) (value : Int) (denotes : Denotes core value)
    (short : utf8Length (dropMarker token) ≤ 2) :
    (∃ bytes, Spells token bytes) ∨ ∃ worth, Negative token worth := by
  obtain ⟨⟨front, back, rfl, frontBlanks, backBlanks⟩, -, -⟩ := trimmed
  obtain ⟨sign, known, marker, marks, body, worths, grouped, rfl, -⟩ := denotes
  have backWhole : ∀ character ∈ back, isSeparator character = false :=
    fun character member => whole character
      (List.mem_append_right _ (List.mem_append_right _ member))
  cases front with
  | cons character front =>
    -- A blank in front and a digit take all the room there is.
    have blank := frontBlanks character List.mem_cons_self
    have noZero : character ≠ '0' := by
      rintro rfl
      exact nomatch blank
    have written : character :: front ++ (sign ++ (marker ++ body) ++ back) =
        character :: (front ++ sign ++ marker ++ (body ++ back)) := by
      simp
    rw [written] at short whole ⊢
    obtain ⟨narrow, alone, rfl, digit, worth, rfl, stands⟩ :=
      grouped.lone character noZero _ _ short
    have tab := eq_verticalTab character blank (whole character List.mem_cons_self) narrow
    rw [alone, tab]
    exact Or.inl ⟨_, Spells.single ['\x0b'] [] (by decide) digit worth stands⟩
  | nil =>
    rw [List.nil_append] at short ⊢
    simp only [signs, List.mem_cons, List.not_mem_nil, or_false] at known
    rcases known with rfl | rfl | rfl
    · rw [List.nil_append, List.append_assoc] at short ⊢
      exact Or.inl (grouped.spells_unsigned marker back marks backBlanks backWhole short)
    · have written : ['+'] ++ (marker ++ body) ++ back = '+' :: (marker ++ (body ++ back)) := by
        simp
      rw [written] at short ⊢
      obtain ⟨-, rfl, rfl, digit, worth, rfl, stands⟩ :=
        grouped.lone '+' (by decide) _ _ short
      exact Or.inl ⟨_, Spells.single ['+'] [] (by decide) digit worth stands⟩
    · have written : ['-'] ++ (marker ++ body) ++ back = '-' :: (marker ++ (body ++ back)) := by
        simp
      rw [written] at short ⊢
      obtain ⟨-, rfl, rfl, digit, worth, rfl, stands⟩ :=
        grouped.lone '-' (by decide) _ _ short
      exact minus_cases digit worth stands

/-! ## Tokens that are refused -/

/-- A negative digit is out of range at the number of bytes in front of it. -/
theorem readToken_of_negative (decoded : Nat) (token : List Char) (worth : Nat)
    (negative : Negative token worth) :
    readToken decoded token = .error (.outOfRange decoded (-worth) 255) := by
  obtain ⟨digit, rfl, stands, nonzero⟩ := negative
  have grouped : Grouped [digit] [worth] :=
    Grouped.of_standFor (List.cons_ne_nil _ _) (.cons stands .nil)
  have denotes : Denotes ['-', digit] (-worth) := by
    refine ⟨['-'], by decide, [], by decide, [digit], [worth], grouped, rfl, ?_⟩
    rw [if_pos rfl, Numeral.number_singleton]
  have short : utf8Length (dropMarker ['-', digit]) ≤ 2 := by
    have bound := utf8Length_dropMarker_append_le ['-'] [digit]
    have size := utf8Size_of_standsFor stands
    have sign : utf8Length (dropMarker ['-']) = 1 := by decide
    rw [sign, utf8Length_cons, size] at bound
    exact bound
  have small := stands.lt
  have noByte : ¬ (0 ≤ saturated (-worth) ∧ saturated (-worth) ≤ 255) :=
    saturated_of_no_byte _ (by omega)
  have exactly : saturated (-worth) = -worth :=
    saturated_eq_self _ (by omega) (by omega)
  have refused := readByteAt_of_denotes decoded _ _ denotes.trimmed_self _ denotes
  rw [byteAt, if_neg noByte, exactly, Fault.notByte] at refused
  simp only [readToken, if_pos short, refused]
  rfl

/-- Every token is a marker or none and what is left without it. -/
theorem exists_plainMarker (token : List Char) :
    ∃ marker ∈ plainMarkers, token = marker ++ dropMarker token := by
  cases marked : afterMarker? token with
  | none => exact ⟨[], by decide, (dropMarker_eq_self marked).symm⟩
  | some rest =>
    rcases (afterMarker?_eq_some_iff token rest).mp marked with rfl | rfl
    · exact ⟨['0', 'x'], by decide, rfl⟩
    · exact ⟨['0', 'X'], by decide, rfl⟩

/-- A long token that is not packed is malformed. -/
theorem readToken_of_long (decoded : Nat) (token : List Char)
    (long : ¬ utf8Length (dropMarker token) ≤ 2) (noShape : ∀ bytes, ¬ Spells token bytes) :
    ∃ reason, readToken decoded token = .error (.malformed (String.ofList token) reason) := by
  have refused : ∃ complaint, readPacked (dropMarker token) = .error complaint := by
    unfold readPacked
    split
    case h_1 character found => exact ⟨_, rfl⟩
    case h_2 noneBad =>
      split
      case h_1 bytes packed =>
        obtain ⟨marker, known, written⟩ := exists_plainMarker token
        have paired := (packedBytes?_eq_some_iff _ bytes).mp packed
        have size := paired.utf8Length_eq
        have present : bytes ≠ [] := by
          rintro rfl
          exact long (size ▸ Nat.zero_le 2)
        exact absurd (written ▸ Spells.pairs marker known _ bytes paired present) (noShape bytes)
      case h_2 odd => exact ⟨_, rfl⟩
  obtain ⟨complaint, refused⟩ := refused
  refine ⟨complaint.wording, ?_⟩
  simp only [readToken, if_neg long, refused]
  rfl

/-- A token of another shape that is not negative is malformed, and named by
itself. -/
theorem readToken_of_other (decoded : Nat) (token : List Char) (isToken : IsToken token)
    (noShape : ∀ bytes, ¬ Spells token bytes) (notNegative : ∀ worth, ¬ Negative token worth) :
    ∃ reason, readToken decoded token = .error (.malformed (String.ofList token) reason) := by
  by_cases short : utf8Length (dropMarker token) ≤ 2
  · have trimmed := Text.trimmed_trim token
    have noInteger : ∀ value, ¬ Denotes (Text.trim token) value := by
      intro value denotes
      rcases shape_of_denotes token _ isToken.whole trimmed value denotes short with
        ⟨bytes, spells⟩ | ⟨worth, negative⟩
      · exact noShape bytes spells
      · exact notNegative worth negative
    have written : Text.Trimmed (String.ofList token).toList (Text.trim token) := by
      rw [String.toList_ofList]
      exact trimmed
    obtain ⟨reason, malformed⟩ := readByte_of_not_denotes _ _ written noInteger
    refine ⟨reason, ?_⟩
    simp only [readToken, if_pos short, readByteAt, malformed]
    rfl
  · exact readToken_of_long decoded token short noShape

end CardCrc.HexText
