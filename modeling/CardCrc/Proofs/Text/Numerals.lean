import CardCrc.Proofs.Text.Digits
import Mathlib.Data.List.Forall2

/-!
# Numerals that are read and written

A numeral is a plus sign or none and at least one digit of a base. It is read as
the number that it stands for as long as this is within the limit, and nothing
else is read.

What is reported of any other text depends on what comes first from the left. If
some first digits stand for a number beyond the limit, the number is too large,
whatever follows them; zeros in front do not bring this about. If that does not
happen, a character that is no digit is met, or digits are missing behind a plus
sign. A text without any character is reported as empty.

Numbers that are written in decimal or in places are made of such digits, which
stand for the number that was written.
-/

namespace CardCrc.Numeral

/-- The character is a digit of a base and stands for this number. -/
def IsDigit (base : Nat) (character : Char) (worth : Nat) : Prop :=
  StandsFor character worth ∧ worth < base

instance (base : Nat) (character : Char) (worth : Nat) :
    Decidable (IsDigit base character worth) := inferInstanceAs (Decidable (_ ∧ _))

/-- Characters are digits of a base and stand for numbers one by one. -/
abbrev AreDigits (base : Nat) : List Char → List Nat → Prop := List.Forall₂ (IsDigit base)

/-- What may stand in front of the digits of a numeral. -/
def plusSigns : List (List Char) := [[], ['+']]

/-- The text is a plus sign or none and at least one digit, and its digits stand
for this number. -/
def Spells (base : Nat) (text : List Char) (value : Nat) : Prop :=
  ∃ sign ∈ plusSigns, ∃ digits worths, digits ≠ [] ∧ AreDigits base digits worths ∧
    text = sign ++ digits ∧ value = number base worths

/-- Behind a plus sign or none, some first digits of the text stand for a number
beyond the limit. -/
def Outgrows (base limit : Nat) (text : List Char) : Prop :=
  ∃ sign ∈ plusSigns, ∃ digits worths rest, AreDigits base digits worths ∧
    text = sign ++ (digits ++ rest) ∧ limit < number base worths

/-! ## Digits -/

/-- A character is read as a digit of a base exactly when it is one. -/
theorem digit?_eq_some_iff (base : Nat) (character : Char) (worth : Nat) :
    digit? base character = some worth ↔ IsDigit base character worth := by
  constructor
  · exact standsFor_of_digit? base character worth
  · rintro ⟨stands, small⟩
    have found := digit?_of_standsFor character worth stands
    simp only [digit?, Option.filter_eq_some_iff, decide_eq_true_eq] at found ⊢
    exact ⟨found.1, small⟩

/-- Digits behind others move these up by as many places. -/
theorem number_append (base : Nat) (front back : List Nat) :
    number base (front ++ back) = number base back + base ^ back.length * number base front := by
  rw [number, List.reverse_append, Nat.ofDigits_append, List.length_reverse]
  rfl

/-- Digits behind others do not make the number smaller. -/
theorem number_le_append (base : Nat) (positive : 0 < base) (front back : List Nat) :
    number base front ≤ number base (front ++ back) := by
  rw [number_append]
  calc
    number base front ≤ base ^ back.length * number base front :=
      Nat.le_mul_of_pos_left _ (Nat.pow_pos positive)
    _ ≤ number base back + base ^ back.length * number base front := Nat.le_add_left _ _

/-! ## Reading digits -/

section Reading

variable {base limit : Nat}

/-- A digit that keeps the number within the limit is taken in. -/
theorem readDigits_cons_of_le (seen : List Nat) (character : Char) (worth : Nat)
    (digit : IsDigit base character worth) (rest : List Char)
    (within : number base (seen ++ [worth]) ≤ limit) :
    readDigits base limit (number base seen) (character :: rest) =
      readDigits base limit (number base (seen ++ [worth])) rest := by
  rw [number_concat] at within ⊢
  simp only [readDigits, (digit?_eq_some_iff _ _ _).mpr digit, if_pos within]

/-- A digit that takes the number beyond the limit ends the reading. -/
theorem readDigits_cons_of_lt (seen : List Nat) (character : Char) (worth : Nat)
    (digit : IsDigit base character worth) (rest : List Char)
    (beyond : limit < number base (seen ++ [worth])) :
    readDigits base limit (number base seen) (character :: rest) = .error .tooLarge := by
  rw [number_concat] at beyond
  simp only [readDigits, (digit?_eq_some_iff _ _ _).mpr digit, if_neg (Nat.not_le_of_lt beyond)]

/-- Digits within the limit are read as the number that they stand for, behind
those that have been read. No digit on the way can take the number beyond the
limit, as those that follow only make it larger. -/
theorem readDigits_of_le (positive : 0 < base) (seen : List Nat) (digits : List Char)
    (worths : List Nat) (areDigits : AreDigits base digits worths)
    (within : number base (seen ++ worths) ≤ limit) :
    readDigits base limit (number base seen) digits = .ok (number base (seen ++ worths)) := by
  induction areDigits generalizing seen with
  | nil => rw [List.append_nil, readDigits]
  | @cons character worth digits worths digit _ inductionHypothesis =>
    rw [List.append_cons] at within ⊢
    have here : number base (seen ++ [worth]) ≤ limit :=
      (number_le_append base positive _ _).trans within
    rw [readDigits_cons_of_le seen character worth digit digits here]
    exact inductionHypothesis (seen ++ [worth]) within

/-- Digits that stand for a number beyond the limit, behind those that have been
read, end the reading whatever follows them. -/
theorem readDigits_of_lt (seen : List Nat) (within : number base seen ≤ limit)
    (digits : List Char) (worths : List Nat) (areDigits : AreDigits base digits worths)
    (rest : List Char) (beyond : limit < number base (seen ++ worths)) :
    readDigits base limit (number base seen) (digits ++ rest) = .error .tooLarge := by
  induction areDigits generalizing seen with
  | nil =>
    rw [List.append_nil] at beyond
    exact absurd within (Nat.not_le_of_lt beyond)
  | @cons character worth digits worths digit _ inductionHypothesis =>
    rw [List.append_cons] at beyond
    rw [List.cons_append]
    by_cases here : number base (seen ++ [worth]) ≤ limit
    · rw [readDigits_cons_of_le seen character worth digit _ here]
      exact inductionHypothesis (seen ++ [worth]) here beyond
    · exact readDigits_cons_of_lt seen character worth digit _ (Nat.lt_of_not_le here)

/-- Characters that are not all digits are refused for one that is none, unless
digits in front of it have taken the number beyond the limit. -/
theorem readDigits_of_not_digits (seen : List Nat) (text : List Char)
    (noDigits : ∀ worths, ¬ AreDigits base text worths)
    (within : ∀ digits worths rest, AreDigits base digits worths → text = digits ++ rest →
      number base (seen ++ worths) ≤ limit) :
    readDigits base limit (number base seen) text = .error .badDigit := by
  induction text generalizing seen with
  | nil => exact absurd List.Forall₂.nil (noDigits [])
  | cons character text inductionHypothesis =>
    cases found : digit? base character with
    | none => simp only [readDigits, found]
    | some worth =>
      have digit : IsDigit base character worth := (digit?_eq_some_iff _ _ _).mp found
      have here : number base (seen ++ [worth]) ≤ limit :=
        within [character] [worth] text (.cons digit .nil) rfl
      rw [readDigits_cons_of_le seen character worth digit text here]
      apply inductionHypothesis (seen ++ [worth])
      · exact fun worths areDigits => noDigits (worth :: worths) (.cons digit areDigits)
      · intro digits worths rest areDigits split
        have longer := within (character :: digits) (worth :: worths) rest
          (.cons digit areDigits) (by rw [split, List.cons_append])
        rw [List.append_cons] at longer
        exact longer

/-! ## Reading numerals -/

/-- A plus sign is no digit. -/
theorem not_isDigit_plus (worth : Nat) : ¬ IsDigit base '+' worth := by
  rintro ⟨stands, -⟩
  rw [← digit?_sixteen_iff, show digit? 16 '+' = none by decide] at stands
  exact nomatch stands

/-- A plus sign or none in front of a digit is passed over. -/
theorem read_sign (sign : List Char) (known : sign ∈ plusSigns) (first : Char) (worth : Nat)
    (digit : IsDigit base first worth) (rest : List Char) :
    read base limit (sign ++ first :: rest) = readDigits base limit 0 (first :: rest) := by
  have noPlus : first ≠ '+' := by
    rintro rfl
    exact not_isDigit_plus worth digit
  simp only [plusSigns, List.mem_cons, List.not_mem_nil, or_false] at known
  rcases known with rfl | rfl
  · rw [List.nil_append]
    unfold read
    split
    case h_1 impossible => exact nomatch impossible
    case h_2 same => exact absurd (List.cons.inj same).1 noPlus
    case h_3 same => exact absurd (List.cons.inj same).1 noPlus
    case h_4 => rfl
  · rfl

/-- Every text is empty, or a plus sign alone, or a plus sign or none and
something that is read as digits. -/
theorem read_cases (base limit : Nat) (text : List Char) :
    text = [] ∨ text = ['+'] ∨ ∃ sign ∈ plusSigns, ∃ unsigned, unsigned ≠ [] ∧
      text = sign ++ unsigned ∧ read base limit text = readDigits base limit 0 unsigned := by
  unfold read
  split
  case h_1 => exact Or.inl rfl
  case h_2 => exact Or.inr (Or.inl rfl)
  case h_3 unsigned notAlone =>
    refine Or.inr (Or.inr ⟨['+'], by decide, unsigned, ?_, rfl, rfl⟩)
    rintro rfl
    exact notAlone rfl
  case h_4 present _ _ =>
    exact Or.inr (Or.inr ⟨[], by decide, text, present, rfl, rfl⟩)

/-- A numeral within the limit is read as the number that it stands for. -/
theorem read_of_spells (positive : 0 < base) (text : List Char) (value : Nat)
    (spells : Spells base text value) (within : value ≤ limit) :
    read base limit text = .ok value := by
  obtain ⟨sign, known, digits, worths, present, areDigits, rfl, rfl⟩ := spells
  cases areDigits with
  | nil => exact absurd rfl present
  | @cons first worth digits worths digit areDigits =>
    rw [read_sign sign known first worth digit digits]
    exact readDigits_of_le positive [] _ _ (.cons digit areDigits) within

/-- A text that outgrows the limit is reported as too large. -/
theorem read_of_outgrows (text : List Char) (outgrows : Outgrows base limit text) :
    read base limit text = .error .tooLarge := by
  obtain ⟨sign, known, digits, worths, rest, areDigits, rfl, beyond⟩ := outgrows
  cases areDigits with
  | nil => exact nomatch beyond
  | @cons first worth digits worths digit areDigits =>
    rw [List.cons_append, read_sign sign known first worth digit _]
    exact readDigits_of_lt [] (Nat.zero_le limit) _ _ (.cons digit areDigits) rest beyond

/-- Any other text with a character in it is reported for a bad digit. -/
theorem read_of_neither (text : List Char) (present : text ≠ [])
    (noGrowth : ¬ Outgrows base limit text)
    (noNumeral : ∀ value ≤ limit, ¬ Spells base text value) :
    read base limit text = .error .badDigit := by
  rcases read_cases base limit text with empty | rfl | ⟨sign, known, unsigned, some, rfl, same⟩
  · exact absurd empty present
  · rfl
  · have within : ∀ digits worths rest, AreDigits base digits worths →
        unsigned = digits ++ rest → number base worths ≤ limit := by
      intro digits worths rest areDigits split
      by_contra beyond
      exact noGrowth ⟨sign, known, digits, worths, rest, areDigits, by rw [split],
        Nat.lt_of_not_le beyond⟩
    rw [same]
    refine readDigits_of_not_digits [] unsigned ?_ within
    intro worths areDigits
    refine noNumeral (number base worths) ?_ ?_
    · exact within unsigned worths [] areDigits (List.append_nil unsigned).symm
    · exact ⟨sign, known, unsigned, worths, some, areDigits, rfl, rfl⟩

/-- What is read is the number that a numeral within the limit stands for, and
only numerals are read. -/
theorem read_eq_ok_iff (positive : 0 < base) (text : List Char) (value : Nat) :
    read base limit text = .ok value ↔ Spells base text value ∧ value ≤ limit := by
  constructor
  · intro accepted
    by_cases numeral : ∃ other ≤ limit, Spells base text other
    · obtain ⟨other, within, spells⟩ := numeral
      have read := read_of_spells positive text other spells within
      rw [Except.ok.inj (accepted.symm.trans read)]
      exact ⟨spells, within⟩
    · exfalso
      by_cases present : text = []
      · rw [present] at accepted
        exact nomatch accepted
      · by_cases outgrows : Outgrows base limit text
        · exact nomatch accepted.symm.trans (read_of_outgrows text outgrows)
        · have noNumeral : ∀ other ≤ limit, ¬ Spells base text other :=
            fun other within spells => numeral ⟨other, within, spells⟩
          exact nomatch accepted.symm.trans (read_of_neither text present outgrows noNumeral)
  · rintro ⟨spells, within⟩
    exact read_of_spells positive text value spells within

end Reading

/-! ## Writing numerals -/

/-- The digit of a number below the base is a digit of the base. -/
theorem isDigit_digitChar (base : Nat) (small : base ≤ 16) (worth : Nat) (inside : worth < base) :
    IsDigit base (Nat.digitChar worth) worth :=
  ⟨standsFor_digitChar worth (by omega), inside⟩

/-- One more digit behind digits. -/
theorem AreDigits.concat {base : Nat} {digits : List Char} {worths : List Nat}
    (areDigits : AreDigits base digits worths) {character : Char} {worth : Nat}
    (digit : IsDigit base character worth) :
    AreDigits base (digits ++ [character]) (worths ++ [worth]) :=
  List.rel_append areDigits (.cons digit .nil)

/-- What has been checked of the hex digits one by one holds of all digits of a
base. -/
theorem AreDigits.of_all {base : Nat} {digits : List Char} {worths : List Nat}
    (areDigits : AreDigits base digits worths) {holds : Char → Bool}
    (checked : hexDigits.all holds = true) : ∀ character ∈ digits, holds character = true := by
  intro character member
  obtain ⟨worth, digit⟩ := exists_of_mem areDigits character member
  exact digit.1.of_all checked

/-- A number is written in digits that stand for it. -/
theorem areDigits_toDigits (base number : Nat) (atLeastTwo : 1 < base) (small : base ≤ 16) :
    ∃ worths, AreDigits base (Nat.toDigits base number) worths ∧
      Numeral.number base worths = number := by
  induction number using Nat.strongRecOn with
  | ind number inductionHypothesis =>
    by_cases single : number < base
    · refine ⟨[number], ?_, number_singleton base number⟩
      rw [Nat.toDigits_of_lt_base single]
      exact .cons (isDigit_digitChar base small number single) .nil
    · have smaller : number / base < number := Nat.div_lt_self (by omega) atLeastTwo
      obtain ⟨worths, areDigits, worth⟩ := inductionHypothesis (number / base) smaller
      have last : IsDigit base (Nat.digitChar (number % base)) (number % base) :=
        isDigit_digitChar base small _ (Nat.mod_lt number (by omega))
      refine ⟨worths ++ [number % base], ?_, ?_⟩
      · rw [Nat.toDigits_of_base_le atLeastTwo (Nat.le_of_not_lt single)]
        exact areDigits.concat last
      · rw [number_concat, worth, Nat.div_add_mod]

/-- Places hold digits of the number that is left when it has wrapped around at
the power of the base. -/
theorem areDigits_fixed (base places number : Nat) (positive : 0 < base) (small : base ≤ 16) :
    ∃ worths, AreDigits base (fixed base places number) worths ∧
      Numeral.number base worths = number % base ^ places := by
  induction places generalizing number with
  | zero => exact ⟨[], .nil, by rw [Nat.pow_zero, Nat.mod_one]; rfl⟩
  | succ places inductionHypothesis =>
    obtain ⟨worths, areDigits, worth⟩ := inductionHypothesis (number / base)
    have last : IsDigit base (Nat.digitChar (number % base)) (number % base) :=
      isDigit_digitChar base small _ (Nat.mod_lt number positive)
    refine ⟨worths ++ [number % base], areDigits.concat last, ?_⟩
    rw [number_concat, worth, Nat.pow_succ', Nat.mod_mul, Nat.add_comm]

/-- Every place holds one character. -/
theorem length_fixed (base places number : Nat) : (fixed base places number).length = places := by
  induction places generalizing number with
  | zero => rfl
  | succ places inductionHypothesis =>
    rw [fixed, List.length_append, inductionHypothesis, List.length_singleton]

/-- What has been checked of the hex digits one by one holds of what is in places of
base sixteen. -/
theorem fixed_of_all {holds : Char → Bool} (checked : hexDigits.all holds = true)
    (places number : Nat) : ∀ character ∈ fixed 16 places number, holds character = true := by
  obtain ⟨worths, areDigits, -⟩ := areDigits_fixed 16 places number (by decide) (by decide)
  exact areDigits.of_all checked

/-- The decimal numeral of a number stands for it. -/
theorem spells_decimal (number : Nat) : Spells 10 (Nat.toDigits 10 number) number := by
  obtain ⟨worths, areDigits, worth⟩ := areDigits_toDigits 10 number (by decide) (by decide)
  exact ⟨[], by decide, _, worths, Nat.toDigits_ne_nil, areDigits, rfl, worth.symm⟩

/-- A number that has enough places stands in them as a numeral. -/
theorem spells_fixed (base places number : Nat) (positive : 0 < base) (small : base ≤ 16)
    (present : 0 < places) (fits : number < base ^ places) :
    Spells base (fixed base places number) number := by
  obtain ⟨worths, areDigits, worth⟩ := areDigits_fixed base places number positive small
  rw [Nat.mod_eq_of_lt fits] at worth
  refine ⟨[], by decide, _, worths, ?_, areDigits, rfl, worth.symm⟩
  cases places with
  | zero => exact nomatch present
  | succ places => exact List.append_ne_nil_of_right_ne_nil _ (List.cons_ne_nil _ _)

/-! ## Telling numbers apart -/

/-- Digits stand for one row of numbers only. -/
theorem AreDigits.unique {base : Nat} {digits : List Char} {worths others : List Nat}
    (areDigits : AreDigits base digits worths) (areDigitsToo : AreDigits base digits others) :
    worths = others := by
  refine List.right_unique_forall₂' ?_ areDigits areDigitsToo
  intro character worth other stands standsToo
  rw [← digit?_eq_some_iff] at stands standsToo
  exact Option.some.inj (stands.symm.trans standsToo)

/-- A character that is no hex digit is not among the digits of a base. -/
theorem AreDigits.notMem {base : Nat} {digits : List Char} {worths : List Nat}
    (areDigits : AreDigits base digits worths) (character : Char)
    (noDigit : digit? 16 character = none) : character ∉ digits := by
  intro member
  obtain ⟨worth, stands, -⟩ := exists_of_mem areDigits character member
  rw [digit?_of_standsFor character worth stands] at noDigit
  exact nomatch noDigit

/-- Nor is it in a numeral with no padding. -/
theorem notMem_toDigits (base number : Nat) (atLeastTwo : 1 < base) (small : base ≤ 16)
    (character : Char) (noDigit : digit? 16 character = none) :
    character ∉ Nat.toDigits base number := by
  obtain ⟨worths, areDigits, -⟩ := areDigits_toDigits base number atLeastTwo small
  exact areDigits.notMem character noDigit

/-- Nor is it in a decimal numeral. -/
theorem notMem_decimal (number : Nat) (character : Char) (noDigit : digit? 16 character = none) :
    character ∉ (decimal number).toList := by
  rw [decimal, String.toList_ofList]
  exact notMem_toDigits 10 number (by decide) (by decide) character noDigit

/-- Numerals with no padding are different if their numbers are. -/
theorem toDigits_injective (base : Nat) (atLeastTwo : 1 < base) (small : base ≤ 16) :
    Function.Injective (Nat.toDigits base) := by
  intro first second same
  obtain ⟨worths, areDigits, worth⟩ := areDigits_toDigits base first atLeastTwo small
  obtain ⟨others, areDigitsToo, worthToo⟩ := areDigits_toDigits base second atLeastTwo small
  rw [same] at areDigits
  rw [← worth, ← worthToo, areDigits.unique areDigitsToo]

/-- So are decimal numerals. -/
theorem decimal_injective : Function.Injective decimal := by
  intro first second same
  exact toDigits_injective 10 (by decide) (by decide) (String.ofList_injective same)

/-- Nor is it in a decimal numeral of an integer unless it is a minus sign. -/
theorem notMem_integer (number : Int) (character : Char) (noDigit : digit? 16 character = none)
    (noMinus : character ≠ '-') : character ∉ (integer number).toList := by
  cases number with
  | ofNat number => exact notMem_decimal number character noDigit
  | negSucc number =>
    rw [integer, String.toList_append, List.mem_append, not_or]
    exact ⟨List.not_mem_cons_of_ne_of_not_mem noMinus List.not_mem_nil,
      notMem_decimal (number + 1) character noDigit⟩

/-- Decimal numerals of integers are different if the integers are: a minus sign is no
digit, and behind it there is the numeral of a natural number again. -/
theorem integer_injective : Function.Injective integer := by
  have signed (number negated : Nat) : decimal number ≠ "-" ++ decimal (negated + 1) := by
    intro same
    apply notMem_decimal number '-' (by decide)
    rw [same, String.toList_append]
    exact List.mem_append_left _ (by decide)
  intro first second same
  cases first with
  | ofNat number =>
    cases second with
    | ofNat other => exact congrArg Int.ofNat (decimal_injective same)
    | negSucc other => exact absurd same (signed number other)
  | negSucc number =>
    cases second with
    | ofNat other => exact absurd same.symm (signed other number)
    | negSucc other =>
      have magnitudes := decimal_injective (String.append_right_inj _ |>.mp same)
      exact congrArg Int.negSucc (Nat.succ.inj magnitudes)

/-- Numbers that have enough places are different if their places are. -/
theorem eq_of_fixed_eq (base places first second : Nat) (positive : 0 < base) (small : base ≤ 16)
    (fits : first < base ^ places) (fitsToo : second < base ^ places)
    (same : fixed base places first = fixed base places second) : first = second := by
  obtain ⟨worths, areDigits, worth⟩ := areDigits_fixed base places first positive small
  obtain ⟨others, areDigitsToo, worthToo⟩ := areDigits_fixed base places second positive small
  rw [same] at areDigits
  rw [Nat.mod_eq_of_lt fits] at worth
  rw [Nat.mod_eq_of_lt fitsToo] at worthToo
  rw [← worth, ← worthToo, areDigits.unique areDigitsToo]

/-- Bytes that are written alike in hex are the same. -/
theorem hexByte_injective : Function.Injective hexByte := by
  intro first second same
  apply UInt8.toNat_inj.mp
  exact eq_of_fixed_eq 16 2 _ _ (by decide) (by decide) first.toNat_lt second.toNat_lt
    (String.ofList_injective same)

/-- A character that is no hex digit is not in a byte written in hex. -/
theorem notMem_hexByte (byte : UInt8) (character : Char) (noDigit : digit? 16 character = none) :
    character ∉ (hexByte byte).toList := by
  obtain ⟨worths, areDigits, -⟩ := areDigits_fixed 16 2 byte.toNat (by decide) (by decide)
  rw [hexByte, String.toList_ofList]
  exact areDigits.notMem character noDigit

/-- Two texts that have the same mark behind words without it have the same words in
front of it and the same behind it. -/
theorem append_mark_inj {mark : Char} {word other rest later : List Char} (absent : mark ∉ word)
    (absentToo : mark ∉ other) (same : word ++ mark :: rest = other ++ mark :: later) :
    word = other ∧ rest = later := by
  induction word generalizing other with
  | nil =>
    cases other with
    | nil => exact ⟨rfl, (List.cons.inj same).2⟩
    | cons character other =>
      exact absurd (List.cons.inj same).1 (List.ne_of_not_mem_cons absentToo)
  | cons character word inductionHypothesis =>
    cases other with
    | nil => exact absurd (List.cons.inj same).1.symm (List.ne_of_not_mem_cons absent)
    | cons first other =>
      obtain ⟨rfl, behind⟩ := List.cons.inj same
      obtain ⟨rfl, behindMark⟩ := inductionHypothesis (List.not_mem_of_not_mem_cons absent)
        (List.not_mem_of_not_mem_cons absentToo) behind
      exact ⟨rfl, behindMark⟩

/-- The same holds of a gap that begins with the mark. -/
theorem append_gap_inj {mark : Char} {gap : List Char} (opens : gap.head? = some mark)
    {word other rest later : List Char} (absent : mark ∉ word) (absentToo : mark ∉ other)
    (same : word ++ (gap ++ rest) = other ++ (gap ++ later)) : word = other ∧ rest = later := by
  obtain ⟨behind, rfl⟩ := List.head?_eq_some_iff.mp opens
  obtain ⟨words, rests⟩ := append_mark_inj absent absentToo same
  exact ⟨words, List.append_cancel_left rests⟩

end CardCrc.Numeral
