import CardCrc.Proofs.HexText.Refusals

/-!
# Reading dumps

A dump is read exactly when each of its tokens has one of the shapes that are
read, and then as the bytes that they spell in order. Otherwise the first token
of another shape is the fault: a negative digit is out of range at the number of
bytes in front of it, and any other token is malformed and named by itself.
-/

namespace CardCrc.HexText

/-- Tokens that all have a shape are read as what they spell, in order. -/
theorem readTokens_of_spelled (decoded : Nat) (parts : List (List Char))
    (groups : List (List UInt8)) (spelled : List.Forall₂ Spells parts groups) :
    readTokens decoded parts = .ok groups.flatten := by
  induction spelled generalizing decoded with
  | nil => rfl
  | @cons part group parts groups spells _ inductionHypothesis =>
    rw [readTokens, readToken_of_spells decoded part group spells]
    change (readTokens (decoded + group.length) parts >>= _) = _
    rw [inductionHypothesis]
    rfl

/-- Tokens behind others are read with the bytes of those in front of them. -/
theorem readTokens_append (decoded : Nat) (first second : List (List Char)) :
    readTokens decoded (first ++ second) = (do
      let before ← readTokens decoded first
      let after ← readTokens (decoded + before.length) second
      return before ++ after) := by
  induction first generalizing decoded with
  | nil => exact (bind_pure (readTokens decoded second)).symm
  | cons token rest inductionHypothesis =>
    simp only [List.cons_append, readTokens, inductionHypothesis, bind_assoc, pure_bind,
      List.length_append, Nat.add_assoc, List.append_assoc]

/-- A token that is refused behind others that are read is the fault. -/
theorem readTokens_of_refused (decoded : Nat) (accepted : List (List Char))
    (groups : List (List UInt8)) (spelled : List.Forall₂ Spells accepted groups)
    (token : List Char) (rest : List (List Char)) (fault : Fault)
    (refused : readToken (decoded + groups.flatten.length) token = .error fault) :
    readTokens decoded (accepted ++ token :: rest) = .error fault := by
  rw [readTokens_append, readTokens_of_spelled decoded accepted groups spelled]
  change (readTokens (decoded + groups.flatten.length) (token :: rest) >>= _) = _
  rw [readTokens, refused]
  rfl

/-- The first token of another shape, and the bytes that the tokens in front of
it spell. -/
def Stops (parts : List (List Char)) (token : List Char) (bytes : List UInt8) : Prop :=
  ∃ accepted groups rest, parts = accepted ++ token :: rest ∧
    List.Forall₂ Spells accepted groups ∧ bytes = groups.flatten ∧
    ∀ others, ¬ Spells token others

/-- Tokens all have a shape or there is a first one of another shape. -/
theorem spelled_or_stops (parts : List (List Char)) :
    (∃ groups, List.Forall₂ Spells parts groups) ∨ ∃ token bytes, Stops parts token bytes := by
  rcases forall₂_or_first Spells parts with whole |
    ⟨accepted, groups, token, rest, split, spelled, noShape⟩
  · exact Or.inl whole
  · exact Or.inr ⟨token, groups.flatten, accepted, groups, rest, split, spelled, rfl, noShape⟩

/-! ## Whole dumps -/

section Dump

variable {text : String} {parts : List (List Char)} (divided : Divided text.toList parts)

include divided

/-- A dump whose tokens all have a shape is read as what they spell. -/
theorem readDump_of_spelled (groups : List (List UInt8))
    (spelled : List.Forall₂ Spells parts groups) : readDump text = .ok groups.flatten := by
  rw [readDump, divided.tokens_eq, readTokens_of_spelled 0 parts groups spelled]

/-- A dump is refused as its first token of another shape is. -/
theorem readDump_of_refused (token : List Char) (bytes : List UInt8)
    (stops : Stops parts token bytes) (fault : Fault)
    (refused : readToken bytes.length token = .error fault) : readDump text = .error fault := by
  obtain ⟨accepted, groups, rest, rfl, spelled, rfl, -⟩ := stops
  rw [readDump, divided.tokens_eq]
  apply readTokens_of_refused 0 accepted groups spelled token rest fault
  rw [Nat.zero_add]
  exact refused

/-- If this token is negative, it is out of range. -/
theorem readDump_of_negative (token : List Char) (bytes : List UInt8)
    (stops : Stops parts token bytes) (worth : Nat) (negative : Negative token worth) :
    readDump text = .error (.outOfRange bytes.length (-worth) 255) :=
  readDump_of_refused divided token bytes stops _
    (readToken_of_negative bytes.length token worth negative)

/-- If it is not, it is malformed. -/
theorem readDump_of_other (token : List Char) (bytes : List UInt8)
    (stops : Stops parts token bytes) (notNegative : ∀ worth, ¬ Negative token worth) :
    ∃ reason, readDump text = .error (.malformed (String.ofList token) reason) := by
  obtain ⟨accepted, groups, rest, written, spelled, same, noShape⟩ := stops
  have member : token ∈ parts := written ▸ List.mem_append_right _ List.mem_cons_self
  obtain ⟨reason, refused⟩ := readToken_of_other bytes.length token
    (divided.areTokens token member) noShape notNegative
  exact ⟨reason, readDump_of_refused divided token bytes
    ⟨accepted, groups, rest, written, spelled, same, noShape⟩ _ refused⟩

/-- There is no other way for a dump to be read or refused. -/
theorem readDump_cases :
    (∃ groups, List.Forall₂ Spells parts groups ∧ readDump text = .ok groups.flatten) ∨
      (∃ token bytes worth, Stops parts token bytes ∧ Negative token worth ∧
        readDump text = .error (.outOfRange bytes.length (-worth) 255)) ∨
      ∃ token bytes reason, Stops parts token bytes ∧ (∀ worth, ¬ Negative token worth) ∧
        readDump text = .error (.malformed (String.ofList token) reason) := by
  rcases spelled_or_stops parts with ⟨groups, spelled⟩ | ⟨token, bytes, stops⟩
  · exact Or.inl ⟨groups, spelled, readDump_of_spelled divided groups spelled⟩
  · by_cases minus : ∃ worth, Negative token worth
    · obtain ⟨worth, negative⟩ := minus
      exact Or.inr (Or.inl ⟨token, bytes, worth, stops, negative,
        readDump_of_negative divided token bytes stops worth negative⟩)
    · have notNegative := not_exists.mp minus
      obtain ⟨reason, refused⟩ := readDump_of_other divided token bytes stops notNegative
      exact Or.inr (Or.inr ⟨token, bytes, reason, stops, notNegative, refused⟩)

end Dump

/-- A dump is read exactly when all of its tokens have a shape. -/
theorem readDump_eq_ok_iff (text : String) (bytes : List UInt8) :
    readDump text = .ok bytes ↔
      ∃ parts groups, Divided text.toList parts ∧ List.Forall₂ Spells parts groups ∧
        bytes = groups.flatten := by
  have divided := divided_tokens text.toList
  constructor
  · intro accepted
    rcases readDump_cases divided with ⟨groups, spelled, outcome⟩ |
      ⟨token, before, worth, -, -, outcome⟩ | ⟨token, before, reason, -, -, outcome⟩
    · exact ⟨_, groups, divided, spelled, Except.ok.inj (accepted.symm.trans outcome)⟩
    · exact nomatch accepted.symm.trans outcome
    · exact nomatch accepted.symm.trans outcome
  · rintro ⟨parts, groups, laid, spelled, rfl⟩
    exact readDump_of_spelled laid groups spelled

/-- A number in a dump is out of range exactly when the first token of another
shape is negative. -/
theorem readDump_eq_outOfRange_iff (text : String) (index : Nat) (value limit : Int) :
    readDump text = .error (.outOfRange index value limit) ↔
      ∃ parts token bytes worth, Divided text.toList parts ∧ Stops parts token bytes ∧
        Negative token worth ∧ index = bytes.length ∧ value = -(worth : Int) ∧ limit = 255 := by
  have divided := divided_tokens text.toList
  constructor
  · intro refused
    rcases readDump_cases divided with ⟨groups, -, outcome⟩ |
      ⟨token, before, worth, stops, negative, outcome⟩ | ⟨token, before, reason, -, -, outcome⟩
    · exact nomatch refused.symm.trans outcome
    · obtain ⟨rfl, rfl, rfl⟩ := Fault.outOfRange.inj (Except.error.inj (refused.symm.trans outcome))
      exact ⟨_, token, before, worth, divided, stops, negative, rfl, rfl, rfl⟩
    · exact nomatch refused.symm.trans outcome
  · rintro ⟨parts, token, bytes, worth, laid, stops, negative, rfl, rfl, rfl⟩
    exact readDump_of_negative laid token bytes stops worth negative

/-- A dump is malformed exactly when the first token of another shape is not
negative, and the fault names this token. -/
theorem readDump_eq_malformed_iff (text input : String) :
    (∃ reason, readDump text = .error (.malformed input reason)) ↔
      ∃ parts token bytes, Divided text.toList parts ∧ Stops parts token bytes ∧
        (∀ worth, ¬ Negative token worth) ∧ input = String.ofList token := by
  have divided := divided_tokens text.toList
  constructor
  · rintro ⟨cause, refused⟩
    rcases readDump_cases divided with ⟨groups, -, outcome⟩ |
      ⟨token, before, worth, -, -, outcome⟩ |
      ⟨token, before, reason, stops, notNegative, outcome⟩
    · exact nomatch refused.symm.trans outcome
    · exact nomatch refused.symm.trans outcome
    · obtain ⟨rfl, -⟩ := Fault.malformed.inj (Except.error.inj (refused.symm.trans outcome))
      exact ⟨_, token, before, divided, stops, notNegative, rfl⟩
  · rintro ⟨parts, token, bytes, laid, stops, notNegative, rfl⟩
    exact readDump_of_other laid token bytes stops notNegative

/-- Every text is laid out as tokens in exactly one way. It is read exactly when
all of them have a shape, as the bytes that they spell in order. Otherwise the
first token of another shape is the fault: if it is a minus sign in front of a
digit other than zero, the negative number is out of range at the number of
bytes in front of it, and if it is anything else, it is malformed and named. -/
theorem dump_reading_exact (text : String) :
    (∃! parts, Divided text.toList parts) ∧
    (∀ bytes, readDump text = .ok bytes ↔
      ∃ parts groups, Divided text.toList parts ∧ List.Forall₂ Spells parts groups ∧
        bytes = groups.flatten) ∧
    (∀ index value limit, readDump text = .error (.outOfRange index value limit) ↔
      ∃ parts token bytes worth, Divided text.toList parts ∧ Stops parts token bytes ∧
        Negative token worth ∧ index = bytes.length ∧ value = -(worth : Int) ∧ limit = 255) ∧
    ∀ input, (∃ reason, readDump text = .error (.malformed input reason)) ↔
      ∃ parts token bytes, Divided text.toList parts ∧ Stops parts token bytes ∧
        (∀ worth, ¬ Negative token worth) ∧ input = String.ofList token := by
  have divided := divided_tokens text.toList
  exact ⟨⟨_, divided, fun others laid => laid.tokens_eq.symm⟩, readDump_eq_ok_iff text,
    readDump_eq_outOfRange_iff text, readDump_eq_malformed_iff text⟩

end CardCrc.HexText
