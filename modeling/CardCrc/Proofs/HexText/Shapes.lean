import CardCrc.Proofs.HexText.Reading
import CardCrc.Proofs.HexText.Tokens

/-!
# The shapes of tokens

A token of a dump that is read has one of a few shapes. Digits in pairs, with a
marker in front or without one, are a byte for each pair. A single digit is a
byte too, and since short tokens are read as hex integers it may have a sign, a
marker with a separator behind it, or a vertical tab at either end of the token,
which is the only blank that is short enough and separates no tokens. For the
same reason a minus sign in front of zero is read, and in front of any other
digit it makes a number that is out of range.

No other token is read. Whether a token is short is a matter of the bytes that
it takes, so a character outside ASCII makes a token long or stands in it alone,
and is refused either way.
-/

namespace CardCrc.HexText

open Numeral (StandsFor StandFor number)

/-- Every two digits are a byte, the first of them counting sixteen times. -/
inductive Paired : List Char → List UInt8 → Prop
  /-- No digits are no bytes. -/
  | nil : Paired [] []
  /-- Two more digits are one more byte. -/
  | cons {digits : List Char} {bytes : List UInt8} (high low : Char) (highWorth lowWorth : Nat)
      (highStands : StandsFor high highWorth) (lowStands : StandsFor low lowWorth)
      (rest : Paired digits bytes) :
      Paired (high :: low :: digits) (UInt8.ofNat (16 * highWorth + lowWorth) :: bytes)

/-- What may stand in front of pairs of digits. -/
def plainMarkers : List (List Char) := [[], ['0', 'x'], ['0', 'X']]

/-- What may stand in front of a single digit and behind it. -/
def surroundings : List (List Char × List Char) :=
  [([], []), (['0', 'x'], []), (['0', 'X'], []), (['+'], []), (['0', 'x', '_'], []),
    (['0', 'X', '_'], []), (['\x0b'], []), ([], ['\x0b']), (['0', 'x'], ['\x0b']),
    (['0', 'X'], ['\x0b'])]

/-- The token has a shape that is read, and spells these bytes. -/
inductive Spells : List Char → List UInt8 → Prop
  /-- A single digit in one of its surroundings is a byte below sixteen. -/
  | single (front back : List Char) (known : (front, back) ∈ surroundings) (digit : Char)
      (worth : Nat) (stands : StandsFor digit worth) :
      Spells (front ++ digit :: back) [UInt8.ofNat worth]
  /-- A minus sign changes nothing about zero. -/
  | negativeZero : Spells ['-', '0'] [0]
  /-- One pair or more, with a marker in front or without one. -/
  | pairs (marker : List Char) (known : marker ∈ plainMarkers) (digits : List Char)
      (bytes : List UInt8) (paired : Paired digits bytes) (present : bytes ≠ []) :
      Spells (marker ++ digits) bytes

/-- The token is a minus sign in front of a single digit that is not zero. -/
def Negative (token : List Char) (worth : Nat) : Prop :=
  ∃ digit, token = ['-', digit] ∧ StandsFor digit worth ∧ worth ≠ 0

/-! ## Digits between blanks -/

/-- Digits alone are one group. -/
theorem Grouped.of_standFor {digits : List Char} {worths : List Nat} (present : digits ≠ [])
    (stand : StandFor digits worths) : Grouped digits worths := by
  refine ⟨[digits], List.cons_ne_nil _ _, ?_, ?_, List.intercalate_singleton.symm⟩
  · exact List.forall_mem_singleton.mpr present
  · rw [List.flatten_singleton]
    exact stand

/-- Nothing in the text of a hex integer is a blank. -/
theorem Denotes.not_isBlank {core : List Char} {value : Int} (denotes : Denotes core value)
    (character : Char) (member : character ∈ core) : Text.isBlank character = false := by
  rw [← Bool.not_eq_true']
  have inSigns : ∀ sign ∈ signs, sign.all (!Text.isBlank ·) = true := by decide
  have inMarkers : ∀ marker ∈ markers, marker.all (!Text.isBlank ·) = true := by decide
  have inDigits : Numeral.hexDigits.all (!Text.isBlank ·) = true := by decide
  obtain ⟨sign, known, marker, marks, body, worths, grouped, rfl, -⟩ := denotes
  rcases List.mem_append.mp member with inSign | behind
  · exact List.all_eq_true.mp (inSigns sign known) character inSign
  rcases List.mem_append.mp behind with inMarker | inBody
  · exact List.all_eq_true.mp (inMarkers marker marks) character inMarker
  · by_cases separator : character = '_'
    · subst separator
      decide
    · obtain ⟨worth, stands⟩ := grouped.exists_standsFor character inBody separator
      exact stands.of_all inDigits

/-- A hex integer between blanks is the core of the text. -/
theorem Denotes.trimmed {core : List Char} {value : Int} (denotes : Denotes core value)
    (front back : List Char) (frontBlanks : ∀ character ∈ front, Text.isBlank character = true)
    (backBlanks : ∀ character ∈ back, Text.isBlank character = true) :
    Text.Trimmed (front ++ (core ++ back)) core :=
  Text.trimmed_between denotes.not_isBlank front back frontBlanks backBlanks

/-- A hex integer is its own core. -/
theorem Denotes.trimmed_self {core : List Char} {value : Int} (denotes : Denotes core value) :
    Text.Trimmed core core := Text.trimmed_self denotes.not_isBlank

/-- A hex integer between blanks is checked to be a byte, and told where it
stands if it is none. -/
theorem readByteAt_of_denotes (index : Nat) (token core : List Char)
    (trimmed : Text.Trimmed token core) (value : Int) (denotes : Denotes core value) :
    readByteAt index (String.ofList token) = byteAt index (saturated value) := by
  have written : Text.Trimmed (String.ofList token).toList core := by
    rw [String.toList_ofList]
    exact trimmed
  rw [readByteAt, readByte_of_denotes _ core written value denotes]
  simp only [byteAt]
  split
  · rfl
  · rfl

/-- A hex integer between blanks that stands for a byte is read as this byte. -/
theorem readByteAt_of_byte (index : Nat) (token core : List Char)
    (trimmed : Text.Trimmed token core) (worth : Nat) (denotes : Denotes core worth)
    (small : worth ≤ 255) :
    readByteAt index (String.ofList token) = .ok (UInt8.ofNat worth) := by
  have byte : 0 ≤ (worth : Int) ∧ (worth : Int) ≤ 255 := by omega
  rw [readByteAt_of_denotes index token core trimmed worth denotes, saturated_of_byte _ byte,
    byteAt, if_pos byte, Int.toNat_natCast]

/-- A single digit is read behind blanks, a plus sign or none and a marker or
none, and in front of blanks. -/
theorem readByteAt_single (index : Nat) (front back sign marker : List Char)
    (frontBlanks : ∀ character ∈ front, Text.isBlank character = true)
    (backBlanks : ∀ character ∈ back, Text.isBlank character = true)
    (known : sign ∈ signs) (positive : sign ≠ ['-']) (marks : marker ∈ markers)
    (digit : Char) (worth : Nat) (stands : StandsFor digit worth) :
    readByteAt index (String.ofList (front ++ (sign ++ (marker ++ [digit]) ++ back))) =
      .ok (UInt8.ofNat worth) := by
  have grouped : Grouped [digit] [worth] :=
    Grouped.of_standFor (List.cons_ne_nil _ _) (.cons stands .nil)
  have denotes : Denotes (sign ++ (marker ++ [digit])) worth := by
    refine ⟨sign, known, marker, marks, [digit], [worth], grouped, rfl, ?_⟩
    rw [if_neg positive, Numeral.number_singleton]
  have small := stands.lt
  exact readByteAt_of_byte index _ _ (denotes.trimmed front back frontBlanks backBlanks) worth
    denotes (by omega)

/-! ## The size of a token -/

/-- A text takes what its first character and the others take. -/
@[simp] theorem utf8Length_cons (character : Char) (rest : List Char) :
    utf8Length (character :: rest) = character.utf8Size + utf8Length rest := rfl

/-- Two texts take what each of them takes. -/
theorem utf8Length_append (first second : List Char) :
    utf8Length (first ++ second) = utf8Length first + utf8Length second := by
  induction first with
  | nil => exact (Nat.zero_add _).symm
  | cons character rest inductionHypothesis =>
    rw [List.cons_append, utf8Length_cons, utf8Length_cons, inductionHypothesis, Nat.add_assoc]

/-- Every character takes at least one byte. -/
theorem length_le_utf8Length (text : List Char) : text.length ≤ utf8Length text := by
  induction text with
  | nil => exact Nat.le_refl 0
  | cons character rest inductionHypothesis =>
    have positive := character.utf8Size_pos
    rw [List.length_cons, utf8Length_cons]
    omega

/-- A text takes as many bytes as its string. -/
theorem utf8Length_eq_utf8ByteSize (text : List Char) :
    utf8Length text = (String.ofList text).utf8ByteSize := by
  induction text with
  | nil => rfl
  | cons character rest inductionHypothesis =>
    have split : String.ofList (character :: rest) =
        String.singleton character ++ String.ofList rest := by
      rw [String.singleton_eq_ofList, ← String.ofList_append, List.singleton_append]
    rw [utf8Length_cons, inductionHypothesis, split, String.utf8ByteSize_append,
      String.utf8ByteSize_singleton]

/-- A text without a marker in front is kept whole. -/
theorem dropMarker_eq_self {text : List Char} (unmarked : afterMarker? text = none) :
    dropMarker text = text := by
  rw [dropMarker, unmarked, Option.getD_none]

/-- A marker is dropped, or none if there is none. -/
theorem dropMarker_plain (marker : List Char) (known : marker ∈ plainMarkers) (rest : List Char)
    (unmarked : afterMarker? rest = none) : dropMarker (marker ++ rest) = rest := by
  simp only [plainMarkers, List.mem_cons, List.not_mem_nil, or_false] at known
  rcases known with rfl | rfl | rfl
  · exact dropMarker_eq_self unmarked
  · rfl
  · rfl

/-- What follows a text takes no more behind it when its marker is dropped. -/
theorem utf8Length_dropMarker_append_le (front back : List Char) :
    utf8Length (dropMarker (front ++ back)) ≤ utf8Length (dropMarker front) + utf8Length back := by
  have marked (letter : Char) (rest : List Char) :
      utf8Length rest ≤ utf8Length ('0' :: letter :: rest) := by
    rw [utf8Length_cons, utf8Length_cons]
    omega
  cases found : afterMarker? front with
  | none =>
    rw [dropMarker_eq_self found, ← utf8Length_append]
    cases foundLater : afterMarker? (front ++ back) with
    | none => rw [dropMarker_eq_self foundLater]
    | some rest =>
      rw [dropMarker, foundLater, Option.getD_some]
      rcases (afterMarker?_eq_some_iff _ rest).mp foundLater with written | written
      · exact written ▸ marked 'x' rest
      · exact written ▸ marked 'X' rest
  | some rest =>
    rcases (afterMarker?_eq_some_iff front rest).mp found with rfl | rfl
    · exact Nat.le_of_eq (utf8Length_append rest back)
    · exact Nat.le_of_eq (utf8Length_append rest back)

/-- A hex digit takes one byte. -/
theorem utf8Size_of_standsFor {digit : Char} {worth : Nat} (stands : StandsFor digit worth) :
    digit.utf8Size = 1 :=
  beq_iff_eq.mp (stands.of_all (by decide : Numeral.hexDigits.all (·.utf8Size == 1) = true))

/-- Pairs of digits take two bytes each. -/
theorem Paired.utf8Length_eq {digits : List Char} {bytes : List UInt8}
    (paired : Paired digits bytes) : utf8Length digits = 2 * bytes.length := by
  induction paired with
  | nil => rfl
  | cons high low highWorth lowWorth highStands lowStands rest inductionHypothesis =>
    rw [utf8Length_cons, utf8Length_cons, utf8Size_of_standsFor highStands,
      utf8Size_of_standsFor lowStands, inductionHypothesis, List.length_cons]
    omega

/-! ## Pairs of digits -/

/-- Pairs of digits contain hex digits only. -/
theorem Paired.isHexDigit {digits : List Char} {bytes : List UInt8}
    (paired : Paired digits bytes) (character : Char) (member : character ∈ digits) :
    isHexDigit character = true := by
  have each : Numeral.hexDigits.all HexText.isHexDigit = true := by decide
  induction paired with
  | nil => exact nomatch member
  | cons high low highWorth lowWorth highStands lowStands rest inductionHypothesis =>
    rcases List.mem_cons.mp member with rfl | later
    · exact highStands.of_all each
    rcases List.mem_cons.mp later with rfl | latest
    · exact lowStands.of_all each
    · exact inductionHypothesis latest

/-- Digits are put together in pairs exactly when every two of them are a byte. -/
theorem packedBytes?_eq_some_iff (digits : List Char) (bytes : List UInt8) :
    packedBytes? digits = some bytes ↔ Paired digits bytes := by
  constructor
  · intro packed
    induction digits using packedBytes?.induct generalizing bytes with
    | case1 =>
      rw [← Option.some.inj packed]
      exact Paired.nil
    | case2 digit => exact nomatch packed
    | case3 high low rest inductionHypothesis =>
      simp only [packedBytes?, Option.bind_eq_bind, Option.bind_eq_some_iff, Option.pure_def,
        Option.some.injEq] at packed
      obtain ⟨highWorth, highFound, lowWorth, lowFound, others, packed, rfl⟩ := packed
      exact Paired.cons high low highWorth lowWorth
        ((Numeral.digit?_sixteen_iff high highWorth).mp highFound)
        ((Numeral.digit?_sixteen_iff low lowWorth).mp lowFound)
        (inductionHypothesis others packed)
  · intro paired
    induction paired with
    | nil => rfl
    | cons high low highWorth lowWorth highStands lowStands rest inductionHypothesis =>
      simp only [packedBytes?, Numeral.digit?_of_standsFor high highWorth highStands,
        Numeral.digit?_of_standsFor low lowWorth lowStands, inductionHypothesis]
      rfl

/-- Behind a marker or none, pairs of digits are found. They are no marker
themselves, as its letter is no digit. -/
theorem Paired.dropMarker_append {digits : List Char} {bytes : List UInt8}
    (paired : Paired digits bytes) (marker : List Char) (known : marker ∈ plainMarkers) :
    dropMarker (marker ++ digits) = digits := by
  have noLetter (letter : Char) (noDigit : HexText.isHexDigit letter = false) :
      letter ∉ digits := by
    intro member
    rw [paired.isHexDigit letter member] at noDigit
    exact nomatch noDigit
  exact dropMarker_plain marker known digits
    (afterMarker?_eq_none (noLetter 'x' (by decide)) (noLetter 'X' (by decide)))

/-- Pairs of digits are read as their bytes. -/
theorem Paired.readPacked_eq {digits : List Char} {bytes : List UInt8}
    (paired : Paired digits bytes) : readPacked digits = .ok bytes := by
  have noneBad : digits.find? (fun character => !HexText.isHexDigit character) = none := by
    rw [List.find?_eq_none]
    intro character member
    simp [paired.isHexDigit character member]
  rw [readPacked, noneBad, (packedBytes?_eq_some_iff digits bytes).mpr paired]

/-! ## Tokens that are read -/

/-- A single digit in its surroundings makes a short token. -/
theorem utf8Length_single_le (front back : List Char) (known : (front, back) ∈ surroundings)
    (digit : Char) (worth : Nat) (stands : StandsFor digit worth) :
    utf8Length (dropMarker (front ++ digit :: back)) ≤ 2 := by
  have room : ∀ around ∈ surroundings,
      utf8Length (dropMarker around.1) + utf8Length around.2 ≤ 1 := by decide
  have around : utf8Length (dropMarker front) + utf8Length back ≤ 1 := room (front, back) known
  have bound := utf8Length_dropMarker_append_le front (digit :: back)
  rw [utf8Length_cons, utf8Size_of_standsFor stands] at bound
  omega

/-- A single digit in its surroundings is read as a short token. Each of the
surroundings is a sign, a marker and blanks as a hex integer may have them. -/
theorem readToken_single (decoded : Nat) (front back : List Char)
    (known : (front, back) ∈ surroundings) (digit : Char) (worth : Nat)
    (stands : StandsFor digit worth) :
    readToken decoded (front ++ digit :: back) = .ok [UInt8.ofNat worth] := by
  have split : ∀ around ∈ surroundings, ∃ blanks ∈ [[], ['\x0b']], ∃ sign ∈ signs,
      ∃ marker ∈ markers, around.1 = blanks ++ (sign ++ marker) ∧ sign ≠ ['-'] ∧
        blanks.all Text.isBlank = true ∧ around.2.all Text.isBlank = true := by decide
  obtain ⟨blanks, -, sign, inSigns, marker, marks, written, positive, frontBlanks, backBlanks⟩ :=
    split (front, back) known
  have accepted := readByteAt_single decoded blanks back sign marker
    (List.all_eq_true.mp frontBlanks) (List.all_eq_true.mp backBlanks) inSigns positive marks digit
    worth stands
  have short := utf8Length_single_le front back known digit worth stands
  have whole : front ++ digit :: back = blanks ++ (sign ++ (marker ++ [digit]) ++ back) := by
    change front = blanks ++ (sign ++ marker) at written
    rw [written]
    simp
  rw [← whole] at accepted
  simp only [readToken, if_pos short, accepted]
  rfl

/-- Zero is read behind a minus sign. -/
theorem readToken_negativeZero (decoded : Nat) : readToken decoded ['-', '0'] = .ok [0] := by
  have zero : readByteAt decoded (String.ofList ['-', '0']) = .ok 0 := by
    have grouped : Grouped ['0'] [0] :=
      Grouped.of_standFor (List.cons_ne_nil _ _) (.cons (by decide) .nil)
    have denotes : Denotes ['-', '0'] 0 :=
      ⟨['-'], by decide, [], by decide, ['0'], [0], grouped, rfl, by decide⟩
    exact readByteAt_of_byte decoded _ _ (Text.trimmed_trim ['-', '0']) 0 denotes (by decide)
  have short : utf8Length (dropMarker ['-', '0']) ≤ 2 := by decide
  simp only [readToken, if_pos short, zero]
  rfl

/-- A single pair of digits is read as a short token. -/
theorem readByteAt_pair (index : Nat) (marker : List Char) (known : marker ∈ plainMarkers)
    (high low : Char) (highWorth lowWorth : Nat) (highStands : StandsFor high highWorth)
    (lowStands : StandsFor low lowWorth) :
    readByteAt index (String.ofList (marker ++ [high, low])) =
      .ok (UInt8.ofNat (16 * highWorth + lowWorth)) := by
  have marks : ∀ marker ∈ plainMarkers, marker ∈ markers := by decide
  have grouped : Grouped [high, low] [highWorth, lowWorth] :=
    Grouped.of_standFor (List.cons_ne_nil _ _) (.cons highStands (.cons lowStands .nil))
  have denotes : Denotes (marker ++ [high, low]) (16 * highWorth + lowWorth : Nat) := by
    refine ⟨[], by decide, marker, marks marker known, _, _, grouped, rfl, ?_⟩
    rw [if_neg (by decide), Numeral.number_pair]
  have highSmall := highStands.lt
  have lowSmall := lowStands.lt
  exact readByteAt_of_byte index _ _ denotes.trimmed_self _ denotes (by omega)

/-- Pairs of digits are read as their bytes, a single pair as a short token and
several as a long one. -/
theorem readToken_pairs (decoded : Nat) (marker : List Char) (known : marker ∈ plainMarkers)
    (digits : List Char) (bytes : List UInt8) (paired : Paired digits bytes)
    (present : bytes ≠ []) : readToken decoded (marker ++ digits) = .ok bytes := by
  have size := paired.utf8Length_eq
  have found := paired.dropMarker_append marker known
  have positive : 0 < bytes.length := List.length_pos_iff.mpr present
  by_cases lone : bytes.length = 1
  · obtain ⟨byte, rfl⟩ := List.length_eq_one_iff.mp lone
    have short : utf8Length digits ≤ 2 := Nat.le_of_eq size
    obtain _ | ⟨high, low, highWorth, lowWorth, highStands, lowStands, rest⟩ := paired
    cases rest
    have accepted := readByteAt_pair decoded marker known high low highWorth lowWorth
      highStands lowStands
    simp only [readToken, found, if_pos short, accepted]
    rfl
  · have long : ¬ utf8Length digits ≤ 2 := by omega
    simp only [readToken, found, if_neg long, paired.readPacked_eq]
    rfl

/-- A token of a shape is read as the bytes that it spells. -/
theorem readToken_of_spells (decoded : Nat) (token : List Char) (bytes : List UInt8)
    (spells : Spells token bytes) : readToken decoded token = .ok bytes := by
  cases spells with
  | single front back known digit worth stands =>
    exact readToken_single decoded front back known digit worth stands
  | negativeZero => exact readToken_negativeZero decoded
  | pairs marker known digits bytes paired present =>
    exact readToken_pairs decoded marker known digits bytes paired present

end CardCrc.HexText
