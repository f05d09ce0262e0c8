import CardCrc.Proofs.Text.Controls
import CardCrc.Report.Checksum
import CardCrc.Report.Frame

/-!
# The wording of faults

Text of the user comes into a message in two ways: as the input that is refused
and, when a digit is wrong, as a character in the reason. The input is always
quoted. The reason is not, so a message is clean only if its reason is, and that
holds because every reason is the wording of a complaint, where the character is
quoted as well.

No reading makes up a reason of its own. What is put together from readings
faults only where one of them does, so this is shown for each reading and
carried through everything built on it.
-/

namespace CardCrc

variable {α β : Type}

/-- The wording of a complaint is clean, whatever character it complains of. -/
theorem Complaint.clean_wording (complaint : Complaint) :
    Text.Clean complaint.wording.toList := by
  cases complaint with
  | noHexDigits => decide +kernel
  | misplacedSeparator => decide +kernel
  | badHexDigit character =>
    change Text.Clean ("invalid hex digit " ++ String.ofList _).toList
    rw [Text.clean_toList_append]
    exact ⟨by decide +kernel, Text.clean_ofList (Text.clean_quotedCharacter character)⟩
  | oddHexDigits => decide +kernel
  | number flaw => cases flaw <;> decide +kernel
  | unknownCommand => decide +kernel

namespace Fault

/-- The reason of a malformed text is the wording of a complaint. -/
def Worded : Fault → Prop
  | malformed _ reason => ∃ complaint : Complaint, reason = complaint.wording
  | _ => True

/-- The message of a worded fault is clean. -/
theorem clean_message (fault : Fault) (worded : fault.Worded) :
    Text.Clean fault.message.toList := by
  cases fault with
  | malformed input reason =>
    obtain ⟨complaint, rfl⟩ := worded
    change Text.Clean ("Invalid hex byte " ++ _ ++ ": " ++ _).toList
    simp only [Text.clean_toList_append]
    exact ⟨⟨⟨by decide +kernel, Text.clean_ofList (Text.clean_quoted input.toList)⟩,
      by decide +kernel⟩, complaint.clean_wording⟩
  | outOfRange index value limit =>
    change Text.Clean ("Value " ++ _ ++ " at index " ++ _ ++ " is out of range (expected 0..=" ++
      _ ++ ")").toList
    simp only [Text.clean_toList_append, Numeral.clean_integer, Numeral.clean_decimal]
    decide +kernel
  | frameLength expected found =>
    change Text.Clean ("Invalid frame length: expected " ++ _ ++ " bytes, found " ++ _).toList
    simp only [Text.clean_toList_append, Numeral.clean_decimal]
    decide +kernel
  | startBits byte =>
    change Text.Clean ("Invalid start bits in command byte " ++ ("0x" ++ _)).toList
    simp only [Text.clean_toList_append, Numeral.clean_hexByte]
    decide +kernel
  | checksumMismatch received computed =>
    change Text.Clean
      ("CRC mismatch: expected " ++ ("0x" ++ _) ++ ", computed " ++ ("0x" ++ _)).toList
    simp only [Text.clean_toList_append, Numeral.clean_hexByte]
    decide +kernel

/-- A fault is worded still when its number is placed elsewhere. -/
theorem Worded.atIndex {fault : Fault} (worded : fault.Worded) (index : Nat) :
    (fault.atIndex index).Worded := by
  cases fault with
  | malformed input reason => exact worded
  | outOfRange index value limit => trivial
  | frameLength expected found => trivial
  | startBits byte => trivial
  | checksumMismatch received computed => trivial

/-- A complaint about an input is a worded fault. -/
theorem worded_about (complaint : Complaint) (input : String) : (complaint.about input).Worded :=
  ⟨complaint, rfl⟩

/-! ## Readings -/

/-- If a result is a fault, then a worded one. -/
def FaultsWorded (result : Except Fault α) : Prop := ∀ fault, result = .error fault → fault.Worded

/-- A result that is no fault faults in no way. -/
theorem FaultsWorded.ok (value : α) : FaultsWorded (.ok value : Except Fault α) :=
  fun _ impossible => nomatch impossible

/-- A worded fault is a result that faults so. -/
theorem FaultsWorded.error {fault : Fault} (worded : fault.Worded) :
    FaultsWorded (.error fault : Except Fault α) := by
  rintro _ ⟨rfl⟩
  exact worded

/-- What reads one thing and then another faults as one of them does. -/
theorem FaultsWorded.bind {result : Except Fault α} {next : α → Except Fault β}
    (first : FaultsWorded result) (later : ∀ value, FaultsWorded (next value)) :
    FaultsWorded (result >>= next) := by
  cases result with
  | ok value => exact later value
  | error fault => exact FaultsWorded.error (first fault rfl)

/-- What is made of a value that is read faults as the reading does. -/
theorem FaultsWorded.map {result : Except Fault α} (first : FaultsWorded result) (make : α → β) :
    FaultsWorded (result.map make) := by
  cases result with
  | ok value => exact FaultsWorded.ok (make value)
  | error fault => exact FaultsWorded.error (first fault rfl)

/-- A reading that stands elsewhere faults as it does alone. -/
theorem FaultsWorded.atIndex {result : Except Fault α} (first : FaultsWorded result)
    (index : Nat) : FaultsWorded (result.mapError (Fault.atIndex index)) := by
  cases result with
  | ok value => exact FaultsWorded.ok value
  | error fault => exact FaultsWorded.error ((first fault rfl).atIndex index)

/-- A complaint about an input is a worded fault, whatever was complained of. -/
theorem FaultsWorded.about (result : Except Complaint α) (input : String) :
    FaultsWorded (result.mapError (Complaint.about · input)) := by
  cases result with
  | ok value => exact FaultsWorded.ok value
  | error complaint => exact FaultsWorded.error (worded_about complaint input)

end Fault

namespace HexText

open Fault (FaultsWorded)

/-- Reading a byte faults in words. -/
theorem faultsWorded_readByte (text : String) : FaultsWorded (readByte text) := by
  rw [readByte]
  split
  case h_1 value read =>
    rw [byteAt]
    split
    case isTrue => exact FaultsWorded.ok _
    case isFalse => exact FaultsWorded.error trivial
  case h_2 complaint refused => exact FaultsWorded.error (Fault.worded_about complaint text)

/-- So does reading a byte that stands somewhere. -/
theorem faultsWorded_readByteAt (index : Nat) (text : String) :
    FaultsWorded (readByteAt index text) :=
  (faultsWorded_readByte text).atIndex index

/-- So does reading one byte from each text. -/
theorem faultsWorded_readBytesFrom (index : Nat) (texts : List String) :
    FaultsWorded (readBytesFrom index texts) := by
  induction texts generalizing index with
  | nil => exact FaultsWorded.ok []
  | cons text rest inductionHypothesis =>
    refine (faultsWorded_readByteAt index text).bind fun byte => ?_
    exact (inductionHypothesis (index + 1)).bind fun bytes => FaultsWorded.ok (byte :: bytes)

/-- So does reading a token. -/
theorem faultsWorded_readToken (decoded : Nat) (token : List Char) :
    FaultsWorded (readToken decoded token) := by
  rw [readToken]
  split
  case isTrue => exact (faultsWorded_readByteAt decoded _).map _
  case isFalse => exact FaultsWorded.about _ _

/-- So does reading tokens in order. -/
theorem faultsWorded_readTokens (decoded : Nat) (tokens : List (List Char)) :
    FaultsWorded (readTokens decoded tokens) := by
  induction tokens generalizing decoded with
  | nil => exact FaultsWorded.ok []
  | cons token rest inductionHypothesis =>
    refine (faultsWorded_readToken decoded token).bind fun bytes => ?_
    exact (inductionHypothesis (decoded + bytes.length)).bind fun others =>
      FaultsWorded.ok (bytes ++ others)

end HexText

namespace Frame

open Fault (FaultsWorded)

/-- Decoding a received frame faults in words. -/
theorem faultsWorded_ofBytes (bytes : List UInt8) : FaultsWorded (ofBytes bytes) := by
  unfold ofBytes
  split
  case h_1 first a b c d received =>
    split
    case isFalse => exact FaultsWorded.error trivial
    case isTrue =>
      dsimp only
      split
      case isTrue => exact FaultsWorded.ok _
      case isFalse => exact FaultsWorded.error trivial
  case h_2 => exact FaultsWorded.error trivial

/-- So does reading an argument. -/
theorem faultsWorded_readArgument (text : String) : FaultsWorded (readArgument text) := by
  rw [readArgument]
  dsimp only
  split
  case h_1 argument read => exact FaultsWorded.ok _
  case h_2 flaw refused => exact FaultsWorded.error (Fault.worded_about (.number flaw) text)

/-- So does looking up a command. -/
theorem faultsWorded_ofText (text : String) (argument : UInt32) :
    FaultsWorded (ofText text argument) := by
  unfold ofText
  split
  case h_1 command => exact FaultsWorded.ok _
  case h_2 =>
    split
    case h_1 index =>
      unfold ofIndex
      split
      case isTrue => exact FaultsWorded.ok _
      case isFalse => exact FaultsWorded.error trivial
    case h_2 => exact FaultsWorded.error (Fault.worded_about .unknownCommand text)

end Frame

namespace Report

open Fault (FaultsWorded)

/-- A checksum report faults in words. -/
theorem faultsWorded_checksum (arguments : List String) (options : Options) :
    FaultsWorded (checksum arguments options) :=
  (HexText.faultsWorded_readBytesFrom 0 arguments).bind fun _ => FaultsWorded.ok _

/-- So does the report on a frame that is built. -/
theorem faultsWorded_build (command argument : String) (json : Bool) :
    FaultsWorded (build command argument json) := by
  have asked : FaultsWorded (Frame.ofRequest command argument) :=
    (Frame.faultsWorded_readArgument argument).bind (Frame.faultsWorded_ofText command)
  exact asked.bind fun _ => FaultsWorded.ok _

/-- So does the report on a frame that is checked. -/
theorem faultsWorded_verify (arguments : List String) (json : Bool) :
    FaultsWorded (verify arguments json) := by
  refine (HexText.faultsWorded_readTokens 0 _).bind fun bytes => ?_
  exact (Frame.faultsWorded_ofBytes bytes).bind fun _ => FaultsWorded.ok _

end Report

end CardCrc
