import CardCrc.Proofs.HexText.Magnitudes
import CardCrc.Proofs.Text.Numerals
import Mathlib.Data.String.Basic

/-!
# Cuts and words

A text is stored as its bytes, and a reader of hex text works on them. It tells
the sign of a number by the first byte and cuts the text behind it. It measures
a token in bytes and cuts packed digits after every second byte. A character
outside ASCII takes several bytes, and a cut inside of it is a mishap. So are a
magnitude that is no word, the negation of the smallest word, and a pair of
digits that is no byte.

The readings of this module go along the bytes and stop at a mishap. They never
do: a first byte that is a sign is a whole character, and a token is cut only
when all of its characters are digits, of one byte each. A magnitude is brought
back after every digit, so it is never negative and its negation is a word. What
is read is what the readings by characters read.
-/

namespace CardCrc.HexText.Checked

open Numeral (StandsFor StandFor number)

/-- What would stop a reading halfway. -/
inductive Mishap
  /-- A cut ends outside the text or inside a character, or before it starts. -/
  | cut (text : String) (start stop : Nat)
  /-- A magnitude is negative or beyond the largest word. -/
  | magnitude (value : Int)
  /-- The negation of a number is no word. -/
  | negation (value : Int)
  /-- A pair of characters is not a byte. -/
  | pair (text : String) (flaw : Numeral.Flaw)
deriving DecidableEq

/-- The part of a text between two places that are counted in bytes. -/
def cut (text : String) (start stop : Nat) : Except Mishap String :=
  if start ≤ stop ∧ String.Pos.Raw.isValid text ⟨start⟩ ∧ String.Pos.Raw.isValid text ⟨stop⟩ then
    .ok (String.Pos.Raw.extract text ⟨start⟩ ⟨stop⟩)
  else .error (.cut text start stop)

/-- The first byte of a text. -/
def firstByte? (text : String) : Option UInt8 := text.toByteArray.data.toList.head?

/-- Whether the first byte is a minus sign, and the text cut behind a sign. -/
def splitSign (text : String) : Except Mishap (Bool × String) :=
  if firstByte? text = some '-'.toUInt8 then
    (cut text 1 text.utf8ByteSize).map fun rest => (true, rest)
  else if firstByte? text = some '+'.toUInt8 then
    (cut text 1 text.utf8ByteSize).map fun rest => (false, rest)
  else .ok (false, text)

/-- A magnitude with one digit more. Both the product and the sum are brought back
to a word. -/
def takeDigit (magnitude : Int) (digit : Nat) : Except Mishap Int :=
  let next := nearestWord (nearestWord (magnitude * 16) + digit)
  if 0 ≤ next ∧ next < 2 ^ 63 then .ok next else .error (.magnitude next)

/-- Read hex digits behind those that have given `magnitude` so far. -/
def readMagnitude (magnitude : Int) : List Char → Except Mishap (Except Complaint Int)
  | [] => .ok (.ok magnitude)
  | character :: rest =>
    match Numeral.digit? 16 character with
    | some digit => do readMagnitude (← takeDigit magnitude digit) rest
    | none => .ok (.error (.badHexDigit character))

/-- Read groups of digits, without a cut. -/
def readGroups (digits : List Char) : Except Mishap (Except Complaint Int) :=
  let groups := digits.splitOn '_'
  if digits.isEmpty then .ok (.error .noHexDigits)
  else if groups.any List.isEmpty then .ok (.error .misplacedSeparator)
  else readMagnitude 0 groups.flatten

/-- A word with the opposite sign. -/
def negate (value : Int) : Except Mishap Int :=
  if -2 ^ 63 ≤ -value ∧ -value < 2 ^ 63 then .ok (-value) else .error (.negation value)

/-- Read the text of a hex integer. -/
def readInteger (text : String) : Except Mishap (Except Complaint Int) := do
  let (negative, unsigned) ← splitSign (String.ofList (Text.trim text.toList))
  match ← readGroups (digitPart unsigned.toList) with
  | .error complaint => return .error complaint
  | .ok magnitude => if negative then return .ok (← negate magnitude) else return .ok magnitude

/-- Read one byte. -/
def readByte (text : String) : Except Mishap (Except Fault UInt8) := do
  match ← readInteger text with
  | .ok value => return byteAt 0 value
  | .error complaint => return .error (complaint.about text)

/-- Read the two bytes of a text at a place as one byte. -/
def readPair (digits : String) (place : Nat) : Except Mishap UInt8 := do
  let pair ← cut digits place (place + 2)
  match Numeral.read 16 255 pair.toList with
  | .ok value => return UInt8.ofNat value
  | .error flaw => .error (.pair pair flaw)

/-- Read the bytes of a text two by two. -/
def readPairs (digits : String) : Except Mishap (List UInt8) :=
  (List.range' 0 (digits.utf8ByteSize / 2) 2).mapM (readPair digits)

/-- Read the digits of a packed token, which are cut only if they are hex digits and
take an even number of bytes. -/
def readPacked (digits : String) : Except Mishap (Except Complaint (List UInt8)) :=
  match digits.toList.find? fun character => !isHexDigit character with
  | some character => .ok (.error (.badHexDigit character))
  | none =>
    if digits.utf8ByteSize % 2 = 0 then (readPairs digits).map .ok
    else .ok (.error .oddHexDigits)

/-- Read a token with `decoded` bytes in front of it. -/
def readToken (decoded : Nat) (token : List Char) : Except Mishap (Except Fault (List UInt8)) :=
  let digits := String.ofList (dropMarker token)
  if digits.utf8ByteSize ≤ 2 then
    (readByte (String.ofList token)).map fun outcome =>
      (outcome.mapError (Fault.atIndex decoded)).map fun byte => [byte]
  else
    (readPacked digits).map fun outcome =>
      outcome.mapError (Complaint.about · (String.ofList token))

/-- Read tokens with `decoded` bytes in front of them. -/
def readTokens (decoded : Nat) : List (List Char) → Except Mishap (Except Fault (List UInt8))
  | [] => .ok (.ok [])
  | token :: rest => do
    match ← readToken decoded token with
    | .error fault => return .error fault
    | .ok bytes =>
      let others ← readTokens (decoded + bytes.length) rest
      return others.map (bytes ++ ·)

/-- Read all bytes of a dump. -/
def readDump (text : String) : Except Mishap (Except Fault (List UInt8)) :=
  readTokens 0 (tokens text.toList)

/-! ## Cuts -/

/-- The two ways to count the bytes of characters agree. -/
theorem utf8Length_eq_utf8Len (text : List Char) : utf8Length text = String.utf8Len text := by
  rw [utf8Length_eq_utf8ByteSize, String.utf8ByteSize_ofList]

/-- The place behind some first characters is a place to cut at. -/
theorem isValid_append (front back : List Char) :
    String.Pos.Raw.isValid (String.ofList (front ++ back)) ⟨utf8Length front⟩ = true := by
  rw [String.Pos.Raw.isValid_eq_true_iff, String.Pos.Raw.isValid_iff_exists_append]
  refine ⟨String.ofList front, String.ofList back, String.ofList_append, ?_⟩
  rw [String.rawEndPos_ofList, utf8Length_eq_utf8Len]

/-- A cut in front of some characters and behind them is these characters. -/
theorem cut_append (front middle back : List Char) :
    cut (String.ofList (front ++ middle ++ back)) (utf8Length front)
      (utf8Length front + utf8Length middle) = .ok (String.ofList middle) := by
  have start := isValid_append front (middle ++ back)
  have stop := isValid_append (front ++ middle) back
  rw [← List.append_assoc] at start
  rw [utf8Length_append] at stop
  rw [cut, if_pos ⟨Nat.le_add_right _ _, start, stop⟩, utf8Length_eq_utf8Len,
    utf8Length_eq_utf8Len, String.extract_of_valid]

/-- A cut inside a character is a mishap. -/
example : cut "0é" 0 2 = .error (.cut "0é" 0 2) := by decide

/-- A text is cut behind its first character if this takes one byte. -/
theorem cut_cons (first : Char) (narrow : first.utf8Size = 1) (rest : List Char) :
    cut (String.ofList (first :: rest)) 1 (String.ofList (first :: rest)).utf8ByteSize =
      .ok (String.ofList rest) := by
  have behind := cut_append [first] rest []
  rw [List.append_nil, List.singleton_append, ← utf8Length_append, List.singleton_append,
    utf8Length_eq_utf8ByteSize (first :: rest)] at behind
  rwa [show utf8Length [first] = 1 from narrow] at behind

/-! ## Signs -/

/-- The first byte of a text is the first of its first character. -/
theorem firstByte?_cons (first : Char) (rest : List Char) :
    firstByte? (String.ofList (first :: rest)) = (String.utf8EncodeChar first).head? := by
  have present := String.utf8EncodeChar_ne_nil (c := first)
  rw [firstByte?, String.toByteArray_ofList, List.utf8Encode, List.toList_data_toByteArray,
    List.flatMap_cons, List.head?_append_of_ne_nil _ present]

/-- An ASCII character is its own byte. -/
theorem utf8EncodeChar_of_ascii (character : Char) (ascii : character.toNat ≤ 127) :
    String.utf8EncodeChar character = [character.toUInt8] :=
  String.utf8EncodeChar_eq_singleton (Char.utf8Size_eq_one_iff.mpr ascii)

/-- Any other character starts with a byte that is no ASCII character. -/
theorem utf8EncodeChar_of_not_ascii (character : Char) (wide : ¬ character.toNat ≤ 127) :
    ∃ byte others, String.utf8EncodeChar character = byte :: others ∧ 127 < byte.toNat := by
  have high (code : Nat) (large : 127 < code) (small : code < 256) :
      127 < (UInt8.ofNat code).toNat := by
    rw [UInt8.toNat_ofNat', Nat.mod_eq_of_lt small]
    exact large
  change ¬ character.val.toNat ≤ 127 at wide
  simp only [String.utf8EncodeChar, if_neg wide]
  split
  · exact ⟨_, _, rfl, high _ (by omega) (by omega)⟩
  · split
    · exact ⟨_, _, rfl, high _ (by omega) (by omega)⟩
    · exact ⟨_, _, rfl, high _ (by omega) (by omega)⟩

/-- A text starts with the byte of an ASCII character exactly if it starts with
this character. -/
theorem firstByte?_eq_some_iff (first mark : Char) (ascii : mark.toNat ≤ 127) (rest : List Char) :
    firstByte? (String.ofList (first :: rest)) = some mark.toUInt8 ↔ first = mark := by
  have worth (character : Char) : character.toUInt8.toNat = character.toNat % 256 := rfl
  rw [firstByte?_cons]
  constructor
  · intro starts
    by_cases lone : first.toNat ≤ 127
    · rw [utf8EncodeChar_of_ascii first lone, List.head?_cons, Option.some_inj] at starts
      have same := congrArg UInt8.toNat starts
      rw [worth, worth] at same
      exact Char.toNat_inj.mp (by omega)
    · obtain ⟨byte, others, written, high⟩ := utf8EncodeChar_of_not_ascii first lone
      rw [written, List.head?_cons, Option.some_inj] at starts
      rw [starts, worth] at high
      omega
  · rintro rfl
    rw [utf8EncodeChar_of_ascii first ascii, List.head?_cons]

/-- The text behind a sign is found by bytes as it is by characters. -/
theorem splitSign_eq (text : List Char) :
    splitSign (String.ofList text) =
      .ok ((HexText.splitSign text).1, String.ofList (HexText.splitSign text).2) := by
  cases text with
  | nil => rfl
  | cons first rest =>
    have minus := firstByte?_eq_some_iff first '-' (by decide) rest
    have plus := firstByte?_eq_some_iff first '+' (by decide) rest
    simp only [splitSign, minus, plus]
    split
    case isTrue negative =>
      subst negative
      rw [cut_cons '-' (by decide)]
      rfl
    case isFalse notMinus =>
      split
      case isTrue positive =>
        subst positive
        rw [cut_cons '+' (by decide)]
        rfl
      case isFalse notPlus =>
        have unsigned : HexText.splitSign (first :: rest) = (false, first :: rest) := by
          unfold HexText.splitSign
          split
          case h_1 _ same => exact absurd (List.cons.inj same).1 notMinus
          case h_2 _ same => exact absurd (List.cons.inj same).1 notPlus
          case h_3 => rfl
        rw [unsigned]

/-! ## Magnitudes -/

/-- A digit more leaves a magnitude that is no larger than the largest. -/
theorem takeDigit_eq (magnitude digit : Nat) (small : digit < 16) :
    takeDigit magnitude digit = .ok (min (16 * magnitude + digit) largestMagnitude : Nat) := by
  have next : nearestWord (nearestWord ((magnitude : Int) * 16) + digit) =
      (min (16 * magnitude + digit) largestMagnitude : Nat) := by
    simp only [nearestWord, largestMagnitude]
    omega
  have word : (0 : Int) ≤ (min (16 * magnitude + digit) largestMagnitude : Nat) ∧
      ((min (16 * magnitude + digit) largestMagnitude : Nat) : Int) < 2 ^ 63 := by
    simp only [largestMagnitude]
    omega
  simp only [takeDigit, next]
  rw [if_pos word]

/-- Digits are read without a mishap. -/
theorem readMagnitude_eq (magnitude : Nat) (digits : List Char) :
    readMagnitude magnitude digits =
      .ok ((HexText.readMagnitude magnitude digits).map Nat.cast) := by
  induction digits generalizing magnitude with
  | nil => rfl
  | cons character rest inductionHypothesis =>
    cases found : Numeral.digit? 16 character with
    | none => simp only [readMagnitude, HexText.readMagnitude, found, Except.map]
    | some digit =>
      have small := (Numeral.standsFor_of_digit? 16 character digit found).2
      have taken := takeDigit_eq magnitude digit small
      have later := inductionHypothesis (min (16 * magnitude + digit) largestMagnitude)
      simp only [readMagnitude, HexText.readMagnitude, found, taken]
      exact later

/-- What is read is no larger than the largest magnitude. -/
theorem readMagnitude_le (magnitude value : Nat) (within : magnitude ≤ largestMagnitude)
    (digits : List Char) (read : HexText.readMagnitude magnitude digits = .ok value) :
    value ≤ largestMagnitude := by
  induction digits generalizing magnitude with
  | nil => exact Except.ok.inj read ▸ within
  | cons character rest inductionHypothesis =>
    cases found : Numeral.digit? 16 character with
    | none =>
      simp only [HexText.readMagnitude, found] at read
      contradiction
    | some digit =>
      simp only [HexText.readMagnitude, found] at read
      exact inductionHypothesis _ (Nat.min_le_right _ _) read

/-- A magnitude has a negation. -/
theorem negate_eq (magnitude : Nat) (within : magnitude ≤ largestMagnitude) :
    negate magnitude = .ok (-magnitude) := by
  have word : (-2 ^ 63 : Int) ≤ -magnitude ∧ -(magnitude : Int) < 2 ^ 63 := by
    simp only [largestMagnitude] at within
    omega
  rw [negate, if_pos word]

/-- The smallest word has none. -/
example : negate (-2 ^ 63) = .error (.negation (-2 ^ 63)) := by decide

/-- Groups are read without a mishap, and what is read has a negation. -/
theorem readGroups_eq (digits : List Char) :
    readGroups digits = .ok ((HexText.readGroups digits).map Nat.cast) ∧
      ∀ magnitude, HexText.readGroups digits = .ok magnitude → magnitude ≤ largestMagnitude := by
  have nothing (complaint : Complaint) (magnitude : Nat)
      (read : (.error complaint : Except Complaint Nat) = .ok magnitude) :
      magnitude ≤ largestMagnitude := by
    contradiction
  simp only [readGroups, HexText.readGroups]
  split
  case isTrue => exact ⟨rfl, nothing _⟩
  case isFalse =>
    split
    case isTrue => exact ⟨rfl, nothing _⟩
    case isFalse =>
      exact ⟨readMagnitude_eq 0 _,
        fun magnitude => readMagnitude_le 0 magnitude (Nat.zero_le _) _⟩

/-- A hex integer is read without a mishap. -/
theorem readInteger_eq (text : String) :
    readInteger text = .ok (HexText.readInteger text.toList) := by
  rw [readInteger, splitSign_eq, HexText.readInteger]
  obtain ⟨negative, unsigned⟩ := HexText.splitSign (Text.trim text.toList)
  obtain ⟨read, within⟩ := readGroups_eq (digitPart unsigned)
  change (readGroups (digitPart (String.ofList unsigned).toList) >>= _) = _
  rw [String.toList_ofList, read]
  dsimp only
  cases outcome : HexText.readGroups (digitPart unsigned) with
  | error complaint => rfl
  | ok magnitude =>
    cases negative with
    | false => rfl
    | true =>
      change (negate magnitude >>= _) = _
      rw [negate_eq magnitude (within magnitude outcome)]
      rfl

/-- A byte is read without a mishap. -/
theorem readByte_eq (text : String) : readByte text = .ok (HexText.readByte text) := by
  rw [readByte, readInteger_eq, HexText.readByte]
  cases HexText.readInteger text.toList with
  | error complaint => rfl
  | ok value => rfl

/-! ## Pairs -/

/-- A pair of digits takes two bytes. -/
theorem utf8Length_pair {high low : Char} {highWorth lowWorth : Nat}
    (highStands : StandsFor high highWorth) (lowStands : StandsFor low lowWorth) :
    utf8Length [high, low] = 2 := by
  rw [utf8Length_cons, utf8Length_cons, utf8Size_of_standsFor highStands,
    utf8Size_of_standsFor lowStands]
  rfl

/-- Two digits behind others are cut as a pair and read as a byte. -/
theorem readPair_eq (front back : List Char) (high low : Char) (highWorth lowWorth : Nat)
    (highStands : StandsFor high highWorth) (lowStands : StandsFor low lowWorth) :
    readPair (String.ofList (front ++ high :: low :: back)) (utf8Length front) =
      .ok (UInt8.ofNat (16 * highWorth + lowWorth)) := by
  have highSmall := highStands.lt
  have lowSmall := lowStands.lt
  have pair := cut_append front [high, low] back
  rw [utf8Length_pair highStands lowStands, List.append_assoc, List.cons_append,
    List.cons_append, List.nil_append] at pair
  have spells : Numeral.Spells 16 [high, low] (16 * highWorth + lowWorth) :=
    ⟨[], by decide, [high, low], [highWorth, lowWorth], List.cons_ne_nil _ _,
      .cons ⟨highStands, highSmall⟩ (.cons ⟨lowStands, lowSmall⟩ .nil), rfl,
      (Numeral.number_pair 16 highWorth lowWorth).symm⟩
  have read := Numeral.read_of_spells (by decide) [high, low] _ spells
    (by omega : 16 * highWorth + lowWorth ≤ 255)
  rw [readPair, pair]
  dsimp only [bind, Except.bind]
  rw [String.toList_ofList, read]
  rfl

/-- A pair is read more freely than two digits: a plus sign in it would pass. -/
example : readPair "+5" 0 = .ok 5 := by decide

/-- Pairs of digits behind other characters are read as their bytes.

The induction is on the pairs that are left. A pair that has been read joins the
characters in front, which keeps the places of the others. -/
theorem mapM_readPair_eq {digits : List Char} {bytes : List UInt8} (paired : Paired digits bytes)
    (front : List Char) :
    (List.range' (utf8Length front) bytes.length 2).mapM
      (readPair (String.ofList (front ++ digits))) = .ok bytes := by
  induction paired generalizing front with
  | nil => rfl
  | @cons digits bytes high low highWorth lowWorth highStands lowStands rest inductionHypothesis =>
    have first := readPair_eq front digits high low highWorth lowWorth highStands lowStands
    have others := inductionHypothesis (front ++ [high, low])
    rw [utf8Length_append, utf8Length_pair highStands lowStands, List.append_assoc,
      List.cons_append, List.cons_append, List.nil_append] at others
    rw [List.length_cons, List.range'_succ, List.mapM_cons, first, others]
    rfl

/-- Pairs of digits are read as their bytes. -/
theorem readPairs_eq {digits : List Char} {bytes : List UInt8} (paired : Paired digits bytes) :
    readPairs (String.ofList digits) = .ok bytes := by
  have half : (String.ofList digits).utf8ByteSize / 2 = bytes.length := by
    rw [← utf8Length_eq_utf8ByteSize, paired.utf8Length_eq]
    omega
  rw [readPairs, half]
  exact mapM_readPair_eq paired []

/-- Hex digits that take an even number of bytes are pairs. -/
theorem exists_paired (digits : List Char) (hex : ∀ digit ∈ digits, isHexDigit digit = true)
    (even : utf8Length digits % 2 = 0) : ∃ bytes, Paired digits bytes := by
  have stands (digit : Char) (member : digit ∈ digits) : ∃ worth, StandsFor digit worth := by
    obtain ⟨worth, found⟩ := Option.isSome_iff_exists.mp (hex digit member)
    exact ⟨worth, (Numeral.digit?_sixteen_iff digit worth).mp found⟩
  induction digits using packedBytes?.induct with
  | case1 => exact ⟨[], .nil⟩
  | case2 digit =>
    obtain ⟨worth, first⟩ := stands digit List.mem_cons_self
    have size : utf8Length [digit] = 1 := utf8Size_of_standsFor first
    omega
  | case3 high low rest inductionHypothesis =>
    obtain ⟨highWorth, highStands⟩ := stands high List.mem_cons_self
    obtain ⟨lowWorth, lowStands⟩ := stands low (List.mem_cons_of_mem _ List.mem_cons_self)
    rw [utf8Length_cons, utf8Length_cons, utf8Size_of_standsFor highStands,
      utf8Size_of_standsFor lowStands] at even
    have behind : ∀ digit ∈ rest, digit ∈ high :: low :: rest :=
      fun digit member => List.mem_cons_of_mem _ (List.mem_cons_of_mem _ member)
    obtain ⟨bytes, paired⟩ := inductionHypothesis (fun digit member => hex digit (behind _ member))
      (by omega) (fun digit member => stands digit (behind _ member))
    exact ⟨_, .cons high low highWorth lowWorth highStands lowStands paired⟩

/-- Packed digits are read without a mishap. -/
theorem readPacked_eq (digits : List Char) :
    readPacked (String.ofList digits) = .ok (HexText.readPacked digits) := by
  rw [readPacked, HexText.readPacked, String.toList_ofList, ← utf8Length_eq_utf8ByteSize]
  cases noneBad : digits.find? fun character => !isHexDigit character with
  | some character => rfl
  | none =>
    have hex : ∀ digit ∈ digits, isHexDigit digit = true := by
      simpa using List.find?_eq_none.mp noneBad
    dsimp only
    split
    case isTrue even =>
      obtain ⟨bytes, paired⟩ := exists_paired digits hex even
      rw [readPairs_eq paired, (packedBytes?_eq_some_iff digits bytes).mpr paired]
      rfl
    case isFalse odd =>
      have unpaired : packedBytes? digits = none := by
        rw [Option.eq_none_iff_forall_not_mem]
        intro bytes packed
        have size := ((packedBytes?_eq_some_iff digits bytes).mp packed).utf8Length_eq
        omega
      rw [unpaired]

/-! ## Tokens -/

end CardCrc.HexText.Checked

namespace CardCrc.HexText

open Numeral (StandFor number)

end CardCrc.HexText
