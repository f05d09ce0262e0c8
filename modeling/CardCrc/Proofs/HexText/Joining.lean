import CardCrc.Proofs.HexText.Dumps
import CardCrc.Report.Frame
import Mathlib.Data.List.Basic

/-!
# Joined dumps

Two dumps with a separator between them are read as one dump that has the tokens
of both. The first of them decides: its fault is the fault of the whole. If it is
read, the other one is read as it would be alone, except that its bytes stand
further on, and a number out of range is told where it stands.

Nothing but the tokens counts, so it does not matter how a dump is handed over in
several arguments. If every argument is a short token, each of them is one byte,
and the place of an argument is the number of bytes in front of it. Then reading
the arguments as a dump and reading them one by one cannot be told apart.
-/

namespace CardCrc

/-- A change of errors goes through to the steps of a computation. -/
theorem mapError_bind {ε δ α β : Type} (result : Except ε α) (next : α → Except ε β)
    (change : ε → δ) :
    (result >>= next).mapError change =
      result.mapError change >>= fun value => (next value).mapError change := by
  cases result with
  | ok value => rfl
  | error cause => rfl

namespace Fault

/-- The fault of an input that stands so many bytes further on. -/
def movedOn (count : Nat) : Fault → Fault
  | outOfRange index value limit => outOfRange (index + count) value limit
  | fault => fault

/-- A fault that has been placed can be moved on from there. -/
theorem movedOn_atIndex (count index : Nat) (fault : Fault) :
    (fault.atIndex index).movedOn count = fault.atIndex (index + count) := by
  cases fault <;> rfl

end Fault

namespace HexText

/-! ## Tokens further on -/

/-- A token that stands further on is read as it is, or its fault is moved on. -/
theorem readToken_add (decoded count : Nat) (token : List Char) :
    readToken (decoded + count) token =
      (readToken decoded token).mapError (Fault.movedOn count) := by
  simp only [readToken]
  split
  case isTrue =>
    simp only [readByteAt]
    cases readByte (String.ofList token) with
    | ok byte => rfl
    | error fault => exact congrArg Except.error (fault.movedOn_atIndex count decoded).symm
  case isFalse =>
    cases readPacked (dropMarker token) with
    | ok bytes => rfl
    | error complaint => rfl

/-- So are several tokens. -/
theorem readTokens_add (decoded count : Nat) (parts : List (List Char)) :
    readTokens (decoded + count) parts =
      (readTokens decoded parts).mapError (Fault.movedOn count) := by
  induction parts generalizing decoded with
  | nil => rfl
  | cons token rest inductionHypothesis =>
    simp only [readTokens, readToken_add, mapError_bind, Nat.add_right_comm decoded count,
      inductionHypothesis]
    rfl

/-! ## Joined texts -/

/-- Parts with a separator between two of them have the tokens of all parts. -/
theorem tokens_intercalate (separator : Char) (separates : isSeparator separator = true)
    (parts : List (List Char)) : tokens ([separator].intercalate parts) = parts.flatMap tokens := by
  induction parts with
  | nil => rfl
  | cons part parts inductionHypothesis =>
    cases parts with
    | nil => rw [List.intercalate_singleton, List.flatMap_singleton]
    | cons next parts =>
      rw [List.intercalate_cons_cons, List.append_assoc, List.singleton_append,
        tokens_append_separator part _ separator separates, inductionHypothesis]
      rfl

/-- Arguments with spaces between them have the tokens of all arguments. -/
theorem tokens_joined (arguments : List String) :
    tokens (" ".intercalate arguments).toList =
      arguments.flatMap fun argument => tokens argument.toList := by
  rw [String.toList_intercalate]
  exact (tokens_intercalate ' ' (by decide) _).trans (List.flatMap_map _ _ _)

/-- Two dumps with a separator between them are read in turn, the second one with
the bytes of the first in front of it. -/
theorem readDump_join (first second : String) (separator : Char)
    (separates : isSeparator separator = true) :
    readDump (first ++ String.singleton separator ++ second) = (do
      let before ← readDump first
      let after ← (readDump second).mapError (Fault.movedOn before.length)
      return before ++ after) := by
  have joined : (first ++ String.singleton separator ++ second).toList =
      first.toList ++ separator :: second.toList := by simp
  simp only [readDump, joined, tokens_append_separator _ _ separator separates,
    readTokens_append, readTokens_add]

/-- A dump that is not read is malformed or holds a number out of range. -/
theorem readDump_error_cases (text : String) (fault : Fault)
    (refused : readDump text = .error fault) :
    fault.isMalformed = true ∨ fault.isOutOfRange = true := by
  rcases readDump_cases (divided_tokens text.toList) with ⟨groups, -, outcome⟩ |
    ⟨token, before, worth, -, -, outcome⟩ | ⟨token, before, reason, -, -, outcome⟩
  · exact nomatch refused.symm.trans outcome
  · exact Or.inr (Except.error.inj (refused.symm.trans outcome) ▸ rfl)
  · exact Or.inl (Except.error.inj (refused.symm.trans outcome) ▸ rfl)

/-- If the first of two dumps is refused, so is the joined one, with the same
fault. If both are read, the joined dump is read as the bytes of both. If only the
second one is refused, its fault is that of the joined dump: a malformed token is
named as it is alone, and a number out of range stands behind as many more bytes
as the first dump has. There are no other faults.

A received frame is therefore reported on by the tokens of the arguments in order,
in whatever arguments they stand. -/
theorem joined_dumps_read_in_turn :
    (∀ (first second : String) (separator : Char),
      separator ∈ [' ', '\t', '\n', '\x0c', '\r', ':', ','] →
      (∀ fault, readDump first = .error fault →
        readDump (first ++ String.singleton separator ++ second) = .error fault) ∧
      ∀ before, readDump first = .ok before →
        (∀ after, readDump second = .ok after →
          readDump (first ++ String.singleton separator ++ second) = .ok (before ++ after)) ∧
        (∀ input reason, readDump second = .error (.malformed input reason) →
          readDump (first ++ String.singleton separator ++ second) =
            .error (.malformed input reason)) ∧
        ∀ index value limit, readDump second = .error (.outOfRange index value limit) →
          readDump (first ++ String.singleton separator ++ second) =
            .error (.outOfRange (index + before.length) value limit)) ∧
    (∀ text fault, readDump text = .error fault →
      fault.isMalformed = true ∨ fault.isOutOfRange = true) ∧
    ∀ (arguments others : List String) (json : Bool),
      arguments.flatMap (fun argument => tokens argument.toList) =
        others.flatMap (fun argument => tokens argument.toList) →
      Report.verify arguments json = Report.verify others json := by
  refine ⟨?_, readDump_error_cases, ?_⟩
  · intro first second separator separates
    rw [readDump_join first second separator (decide_eq_true separates)]
    constructor
    · intro fault refused
      rw [refused]
      rfl
    · intro before accepted
      rw [accepted]
      refine ⟨?_, ?_, ?_⟩
      · intro after read
        rw [read]
        rfl
      · intro input reason malformed
        rw [malformed]
        rfl
      · intro index value limit outside
        rw [outside]
        rfl
  · intro arguments others json same
    have read : readDump (" ".intercalate arguments) = readDump (" ".intercalate others) := by
      rw [readDump, readDump, tokens_joined, tokens_joined, same]
    rw [Report.verify, Report.verify, read]

/-- A dump of two bytes in front of dumps that are refused, out of range and read,
and a frame in three arguments with its tokens in other places. -/
theorem joined_dumps_read_in_turn_two_bytes :
    readDump ("400" ++ String.singleton ' ' ++ "zz") =
        .error (.malformed "400" "odd number of hex digits") ∧
      readDump ("40 0x0a" ++ String.singleton ':' ++ "5,") = .ok [0x40, 0x0a, 5] ∧
      readDump ("40 0x0a" ++ String.singleton '\n' ++ "400") =
        .error (.malformed "400" "odd number of hex digits") ∧
      readDump ("40 0x0a" ++ String.singleton ',' ++ "1 -2") =
        .error (.outOfRange 3 (-2) 255) ∧
      Report.verify ["48:00", "0001aa", "87"] true =
        Report.verify [" 48 00", "", "0001aa,87"] true := by
  obtain ⟨joined, -, spread⟩ := joined_dumps_read_in_turn
  have odd : readDump "400" = .error (.malformed "400" "odd number of hex digits") := by decide
  have front : readDump "40 0x0a" = .ok [0x40, 0x0a] := by decide
  have refused := (joined "400" "zz" ' ' (by decide)).1 _ odd
  have colon := ((joined "40 0x0a" "5," ':' (by decide)).2 _ front).1 [5] (by decide)
  have lineBreak := ((joined "40 0x0a" "400" '\n' (by decide)).2 _ front).2.1 _ _ odd
  have comma := ((joined "40 0x0a" "1 -2" ',' (by decide)).2 _ front).2.2 1 (-2) 255 (by decide)
  exact ⟨refused, colon, lineBreak, comma, spread _ _ true (by decide)⟩

/-! ## Arguments that are tokens -/

/-- A short token is read as a single byte. -/
theorem readToken_of_short (decoded : Nat) (token : List Char)
    (short : utf8Length (dropMarker token) ≤ 2) :
    readToken decoded token =
      (readByteAt decoded (String.ofList token)).map fun byte => [byte] := by
  rw [readToken, if_pos short]

/-- Texts that are short tokens are read as single bytes in order. -/
theorem readTokens_of_short (index : Nat) (texts : List String)
    (short : ∀ text ∈ texts, utf8Length (dropMarker text.toList) ≤ 2) :
    readTokens index (texts.map String.toList) = readBytesFrom index texts := by
  induction texts generalizing index with
  | nil => rfl
  | cons text rest inductionHypothesis =>
    obtain ⟨here, later⟩ := List.forall_mem_cons.mp short
    rw [List.map_cons, readTokens, readToken_of_short index _ here, String.ofList_toList,
      readBytesFrom]
    cases readByteAt index text with
    | error fault => rfl
    | ok byte =>
      change (readTokens (index + 1) (rest.map String.toList) >>= _) = _
      rw [inductionHypothesis (index + 1) later]
      rfl

/-- Arguments that are short tokens are read one by one as they are read from the
dump that has a space between them, with the same bytes or the same fault. -/
theorem short_arguments_read_alike (arguments : List String)
    (short : ∀ argument ∈ arguments, IsToken argument.toList ∧
      (String.ofList (dropMarker argument.toList)).utf8ByteSize ≤ 2) :
    readBytes arguments = readDump (" ".intercalate arguments) := by
  have whole : arguments.flatMap (fun argument => tokens argument.toList) =
      arguments.map String.toList := by
    rw [List.map_eq_flatMap]
    apply List.flatMap_congr
    intro argument member
    exact (short argument member).1.tokens_eq
  rw [readDump, tokens_joined, whole, readTokens_of_short 0, readBytes]
  intro argument member
  rw [utf8Length_eq_utf8ByteSize]
  exact (short argument member).2

/-- Two bytes and a negative one, which both ways of reading place behind them. -/
theorem short_arguments_read_alike_negative :
    (∀ argument ∈ ["0xff", "5", "-1"], IsToken argument.toList ∧
        (String.ofList (dropMarker argument.toList)).utf8ByteSize ≤ 2) ∧
      readBytes ["0xff", "5", "-1"] = .error (.outOfRange 2 (-1) 255) ∧
      readBytes ["0xff", "5", "-1"] = readDump (" ".intercalate ["0xff", "5", "-1"]) := by
  have short : ∀ argument ∈ ["0xff", "5", "-1"], IsToken argument.toList ∧
      (String.ofList (dropMarker argument.toList)).utf8ByteSize ≤ 2 := by
    simp only [List.forall_mem_cons, ← utf8Length_eq_utf8ByteSize]
    exact ⟨by decide, by decide, by decide, List.forall_mem_nil _⟩
  exact ⟨short, by decide, short_arguments_read_alike _ short⟩

end HexText

end CardCrc
