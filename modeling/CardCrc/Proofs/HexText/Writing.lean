import CardCrc.Proofs.HexText.Dumps
import CardCrc.Proofs.Text.Numerals
import Mathlib.Data.List.Forall2

/-!
# Writing bytes

Bytes that are written as hex text are read back as they were: from the text as
a dump, from its pieces between the spaces one by one, and from its digits with
the spaces left out. More generally it does not matter how bytes are grouped into
tokens, how the tokens are written, and which separators stand around them. All
of these are tokens of shapes that are read.
-/

namespace CardCrc.HexText

open Numeral (StandsFor)

/-- The text is a way to write these bytes as one token. -/
inductive Renders : List Char → List UInt8 → Prop
  /-- Two digits for each byte, with a marker in front or without one. -/
  | pairs (marker : List Char) (known : marker ∈ plainMarkers) (digits : List Char)
      (bytes : List UInt8) (paired : Paired digits bytes) (present : bytes ≠ []) :
      Renders (marker ++ digits) bytes
  /-- One digit for a byte below sixteen. -/
  | digit (marker : List Char) (known : marker ∈ plainMarkers) (digit : Char) (byte : UInt8)
      (stands : StandsFor digit byte.toNat) : Renders (marker ++ [digit]) [byte]

/-- The pieces of a text between spaces. An empty text has none. -/
def pieces (text : String) : List String :=
  ((text.toList.splitOn ' ').filter fun piece => !piece.isEmpty).map String.ofList

/-- A text without its spaces. -/
def packed (text : String) : String := String.ofList (text.toList.filter (· ≠ ' '))

/-! ## Tokens -/

/-- What is written as one token has a shape that is read. -/
theorem Renders.spells {text : List Char} {bytes : List UInt8} (renders : Renders text bytes) :
    Spells text bytes := by
  cases renders with
  | pairs marker known digits bytes paired present =>
    exact Spells.pairs marker known digits bytes paired present
  | digit marker known digit byte stands =>
    have bare : ∀ marker ∈ plainMarkers, (marker, []) ∈ surroundings := by decide
    have single := Spells.single marker [] (bare marker known) digit byte.toNat stands
    rw [UInt8.ofNat_toNat] at single
    exact single

/-- A marker and hex digits hold no separator. -/
theorem not_isSeparator_of_marked (marker digits : List Char) (known : marker ∈ plainMarkers)
    (hex : ∀ digit ∈ digits, isHexDigit digit = true) (character : Char)
    (member : character ∈ marker ++ digits) : isSeparator character = false := by
  rw [← Bool.not_eq_true']
  have inMarkers : ∀ marker ∈ plainMarkers, marker.all (!isSeparator ·) = true := by decide
  have inDigits : Numeral.hexDigits.all (!isSeparator ·) = true := by decide
  rcases List.mem_append.mp member with inMarker | inside
  · exact List.all_eq_true.mp (inMarkers marker known) character inMarker
  · obtain ⟨worth, found⟩ := Option.isSome_iff_exists.mp (hex character inside)
    have stands := (Numeral.digit?_sixteen_iff character worth).mp found
    exact stands.of_all inDigits

/-- What is written as one token is a token. -/
theorem Renders.isToken {text : List Char} {bytes : List UInt8} (renders : Renders text bytes) :
    IsToken text := by
  cases renders with
  | pairs marker known digits bytes paired present =>
    refine ⟨?_, not_isSeparator_of_marked marker digits known paired.isHexDigit⟩
    intro empty
    obtain ⟨-, rfl⟩ := List.append_eq_nil_iff.mp empty
    cases paired
    exact present rfl
  | digit marker known digit byte stands =>
    refine ⟨List.append_ne_nil_of_right_ne_nil _ (List.cons_ne_nil _ _), ?_⟩
    apply not_isSeparator_of_marked marker [digit] known
    rw [List.forall_mem_singleton, isHexDigit, Numeral.digit?_of_standsFor _ _ stands]
    rfl

/-- Bytes in groups, each written as one token, are read back from any text that
is laid out as these tokens. -/
theorem readDump_of_renders (text : String) (renderings : List (List Char))
    (groups : List (List UInt8)) (rendered : List.Forall₂ Renders renderings groups)
    (laid : Laid text.toList renderings) : readDump text = .ok groups.flatten := by
  have areTokens : ∀ part ∈ renderings, IsToken part := by
    intro part member
    obtain ⟨index, inside, rfl⟩ := List.mem_iff_getElem.mp member
    exact (rendered.get inside (rendered.length_eq ▸ inside)).isToken
  have spelled : List.Forall₂ Spells renderings groups := rendered.imp fun _ _ => Renders.spells
  exact readDump_of_spelled ⟨laid, areTokens⟩ groups spelled

/-! ## Bytes as they are written -/

/-- A byte is written as its two digits. -/
theorem paired_hexByte (byte : UInt8) : Paired (Numeral.hexByte byte).toList [byte] := by
  have small := byte.toNat_lt
  have digits : (Numeral.hexByte byte).toList =
      [Nat.digitChar (byte.toNat / 16), Nat.digitChar (byte.toNat % 16)] := by
    rw [Numeral.hexByte, String.toList_ofList]
    simp only [Numeral.fixed, List.nil_append, List.cons_append]
    rw [Nat.mod_eq_of_lt (by omega : byte.toNat / 16 < 16)]
  have whole : UInt8.ofNat (16 * (byte.toNat / 16) + byte.toNat % 16) = byte := by
    rw [Nat.div_add_mod, UInt8.ofNat_toNat]
  have paired := Paired.cons _ _ _ _ (Numeral.standsFor_digitChar (byte.toNat / 16) (by omega))
    (Numeral.standsFor_digitChar (byte.toNat % 16) (by omega)) Paired.nil
  rw [whole] at paired
  rw [digits]
  exact paired

/-- A byte is not written as nothing. -/
theorem hexByte_ne_nil (byte : UInt8) : (Numeral.hexByte byte).toList ≠ [] := by
  intro empty
  have paired := paired_hexByte byte
  rw [empty] at paired
  cases paired

/-- A byte as it is written is one way to write it as a token. -/
theorem renders_hexByte (byte : UInt8) : Renders (Numeral.hexByte byte).toList [byte] :=
  Renders.pairs [] (by decide) _ [byte] (paired_hexByte byte) (List.cons_ne_nil _ _)

/-- The characters of written bytes. -/
theorem toList_write (bytes : List UInt8) :
    (write bytes).toList =
      [' '].intercalate (bytes.map fun byte => (Numeral.hexByte byte).toList) := by
  rw [write, String.toList_intercalate, List.map_map]
  rfl

/-- Written bytes are read back as a dump. -/
theorem readDump_write (bytes : List UInt8) : readDump (write bytes) = .ok bytes := by
  have rendered : List.Forall₂ Renders (bytes.map fun byte => (Numeral.hexByte byte).toList)
      (bytes.map fun byte => [byte]) := by
    rw [List.forall₂_map_left_iff, List.forall₂_map_right_iff, List.forall₂_same]
    exact fun byte _ => renders_hexByte byte
  have laid : Laid (write bytes).toList (bytes.map fun byte => (Numeral.hexByte byte).toList) := by
    rw [toList_write]
    exact laid_intercalate ' ' (by decide) _
  rw [readDump_of_renders (write bytes) _ _ rendered laid, ← List.flatMap_def,
    List.flatMap_singleton']

/-- The pieces of written bytes are the bytes one by one. -/
theorem pieces_write (bytes : List UInt8) : pieces (write bytes) = bytes.map Numeral.hexByte := by
  cases bytes with
  | nil => rfl
  | cons first rest =>
    have spaceless : ∀ piece ∈ (first :: rest).map fun byte => (Numeral.hexByte byte).toList,
        ' ' ∉ piece :=
      List.forall_mem_map.mpr fun byte _ => Numeral.notMem_hexByte byte ' ' (by decide)
    have split := List.splitOn_intercalate ' ' spaceless (List.cons_ne_nil _ _)
    have nonempty : ∀ piece ∈ (first :: rest).map fun byte => (Numeral.hexByte byte).toList,
        (!piece.isEmpty) = true := by
      intro piece member
      obtain ⟨byte, -, rfl⟩ := List.mem_map.mp member
      simp [hexByte_ne_nil byte]
    rw [pieces, toList_write, split, List.filter_eq_self.mpr nonempty, List.map_map]
    apply List.map_congr_left
    intro byte _
    exact String.ofList_toList

/-- Two digits are read as their byte, with a marker in front or without one. -/
theorem readByte_of_paired (marker : List Char) (known : marker ∈ plainMarkers)
    {digits : List Char} {byte : UInt8} (paired : Paired digits [byte]) :
    readByte (String.ofList (marker ++ digits)) = .ok byte := by
  obtain _ | ⟨high, low, highWorth, lowWorth, highStands, lowStands, rest⟩ := paired
  cases rest
  exact readByte_of_readByteAt 0 _ _
    (readByteAt_pair 0 marker known high low highWorth lowWorth highStands lowStands)

/-- A byte as it is written is read back. -/
theorem readByte_hexByte (byte : UInt8) : readByte (Numeral.hexByte byte) = .ok byte := by
  have accepted := readByte_of_paired [] (by decide) (paired_hexByte byte)
  rw [List.nil_append, String.ofList_toList] at accepted
  exact accepted

/-- Bytes written one by one are read back one by one. -/
theorem readBytes_map_hexByte (bytes : List UInt8) :
    readBytes (bytes.map Numeral.hexByte) = .ok bytes := by
  rw [readBytes_eq_ok_iff, ReadAs, List.forall₂_map_left_iff, List.forall₂_same]
  exact fun byte _ => readByte_hexByte byte

/-! ## Packed bytes -/

/-- Pairs of digits behind others are pairs of digits. -/
theorem Paired.append {first second : List Char} {before after : List UInt8}
    (paired : Paired first before) (later : Paired second after) :
    Paired (first ++ second) (before ++ after) := by
  induction paired with
  | nil => exact later
  | cons high low highWorth lowWorth highStands lowStands _ inductionHypothesis =>
    exact Paired.cons high low highWorth lowWorth highStands lowStands inductionHypothesis

/-- Without the spaces between them, parts that hold no space stand side by side. -/
theorem filter_intercalate_space (parts : List (List Char))
    (spaceless : ∀ part ∈ parts, ' ' ∉ part) :
    ([' '].intercalate parts).filter (· ≠ ' ') = parts.flatten := by
  induction parts with
  | nil => rfl
  | cons part parts inductionHypothesis =>
    rw [List.forall_mem_cons] at spaceless
    obtain ⟨here, later⟩ := spaceless
    have kept : part.filter (· ≠ ' ') = part := by
      rw [List.filter_eq_self]
      intro character member
      exact decide_eq_true fun space => here (space ▸ member)
    cases parts with
    | nil => rw [List.intercalate_singleton, kept, List.flatten_singleton]
    | cons next parts =>
      rw [List.intercalate_cons_cons, List.filter_append, List.filter_append, kept,
        inductionHypothesis later, List.flatten_cons]
      simp

/-- The digits of all bytes are pairs of digits. -/
theorem paired_flatMap_hexByte (bytes : List UInt8) :
    Paired (bytes.flatMap fun byte => (Numeral.hexByte byte).toList) bytes := by
  induction bytes with
  | nil => exact Paired.nil
  | cons byte bytes inductionHypothesis =>
    exact (paired_hexByte byte).append inductionHypothesis

/-- Without their spaces, written bytes are pairs of digits. -/
theorem paired_packed_write (bytes : List UInt8) :
    Paired (packed (write bytes)).toList bytes := by
  have spaceless : ∀ part ∈ bytes.map fun byte => (Numeral.hexByte byte).toList, ' ' ∉ part :=
    List.forall_mem_map.mpr fun byte _ => Numeral.notMem_hexByte byte ' ' (by decide)
  rw [packed, String.toList_ofList, toList_write, filter_intercalate_space _ spaceless,
    ← List.flatMap_def]
  exact paired_flatMap_hexByte bytes

/-- Written bytes hold spaces and hex digits only. -/
theorem eq_space_or_isHexDigit_of_mem_write (bytes : List UInt8) (character : Char)
    (member : character ∈ (write bytes).toList) :
    character = ' ' ∨ isHexDigit character = true := by
  by_cases space : character = ' '
  · exact Or.inl space
  · have kept : character ∈ (packed (write bytes)).toList := by
      rw [packed, String.toList_ofList]
      exact List.mem_filter.mpr ⟨member, decide_eq_true space⟩
    exact Or.inr ((paired_packed_write bytes).isHexDigit character kept)

/-- Without their spaces, written bytes are read back as a dump. -/
theorem readDump_packed_write (bytes : List UInt8) :
    readDump (packed (write bytes)) = .ok bytes := by
  by_cases present : bytes = []
  · subst present
    rfl
  · have renders := Renders.pairs [] (by decide) _ bytes (paired_packed_write bytes) present
    rw [readDump_of_renders _ _ [bytes] (.cons renders .nil) (Laid.last _), List.flatten_singleton]

/-! ## Reading back -/

/-- Bytes that are written are read back, from the whole text as a dump and from
its pieces one by one. Whatever the groups into which bytes are divided, the ways
to write each group as one token and the separators around the tokens, the text
is read as these bytes. -/
theorem written_bytes_read_back :
    (∀ bytes, readDump (write bytes) = .ok bytes) ∧
    (∀ bytes, readBytes (pieces (write bytes)) = .ok bytes) ∧
    ∀ (bytes : List UInt8) (groups : List (List UInt8)) (renderings : List (List Char))
      (text : String), groups.flatten = bytes → List.Forall₂ Renders renderings groups →
        Laid text.toList renderings → readDump text = .ok bytes := by
  refine ⟨readDump_write, fun bytes => ?_, ?_⟩
  · rw [pieces_write, readBytes_map_hexByte]
  · rintro bytes groups renderings text rfl rendered laid
    exact readDump_of_renders text renderings groups rendered laid

/-- Four bytes in three groups, written in three ways. -/
theorem written_bytes_read_back_three_groups :
    [[0x40, 0x0a], [5], [0xff]].flatten = ([0x40, 0x0a, 5, 0xff] : List UInt8) ∧
      List.Forall₂ Renders ["0X400a".toList, "5".toList, "0xfF".toList]
        [[0x40, 0x0a], [5], [0xff]] ∧
      Laid ",0X400a: 5\t0xfF\n".toList ["0X400a".toList, "5".toList, "0xfF".toList] ∧
      readDump ",0X400a: 5\t0xfF\n" = .ok [0x40, 0x0a, 5, 0xff] := by
  have packedPair : Paired "400a".toList [0x40, 0x0a] :=
    .cons '4' '0' 4 0 (by decide) (by decide) (.cons '0' 'a' 0 10 (by decide) (by decide) .nil)
  have pair : Paired "fF".toList [0xff] := .cons 'f' 'F' 15 15 (by decide) (by decide) .nil
  have rendered : List.Forall₂ Renders ["0X400a".toList, "5".toList, "0xfF".toList]
      [[0x40, 0x0a], [5], [0xff]] := by
    refine .cons ?_ (.cons ?_ (.cons ?_ .nil))
    · exact Renders.pairs ['0', 'X'] (by decide) _ _ packedPair (by decide)
    · exact Renders.digit [] (by decide) '5' 5 (by decide)
    · exact Renders.pairs ['0', 'x'] (by decide) _ _ pair (by decide)
  have laid : Laid ",0X400a: 5\t0xfF\n".toList ["0X400a".toList, "5".toList, "0xfF".toList] := by
    refine .gap ',' (by decide) (.next "0X400a".toList ':' (by decide) (.gap ' ' (by decide) ?_))
    exact .next "5".toList '\t' (by decide) (.next "0xfF".toList '\n' (by decide) .nil)
  exact ⟨rfl, rendered, laid, written_bytes_read_back.2.2 _ _ _ _ rfl rendered laid⟩

end CardCrc.HexText
