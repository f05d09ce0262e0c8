import CardCrc.Proofs.CommandLine.Spellings
import Mathlib.Data.List.Nodup

/-!
# Arrangements of a checksum's command line

Options and texts stand on the line in any order, and the words of one option
stay together. What the line asks for is the checksum of the texts in their
order, with the options: it depends neither on the places of the options nor on
their spellings. Behind an escape every word is a text.
-/

namespace CardCrc.CommandLine

open Invocation (checksumForm)

/-- Words that are texts and spelled options in any order. -/
inductive Arranged : List String → List String → List Choice → Prop
  | nil : Arranged [] [] []
  /-- A text that does not begin with a hyphen. -/
  | text {words texts : List String} {choices : List Choice} (text : String) :
      text.toList.head? ≠ some '-' → Arranged words texts choices →
      Arranged (text :: words) (text :: texts) choices
  /-- All words of a spelling. -/
  | options {group words texts : List String} {chosen choices : List Choice} :
      Spells group chosen → Arranged words texts choices →
      Arranged (group ++ words) texts (chosen ++ choices)

/-- What options ask for. Each is given at most once, and not both of the trace
and JSON. Without a format the checksum is decimal. -/
structure Asks (choices : List Choice) (options : Report.Options) : Prop where
  once : (choices.map Choice.switch).Nodup
  exclusive : ¬ (.trace ∈ choices ∧ .json ∈ choices)
  trace : options.trace = true ↔ .trace ∈ choices
  json : options.json = true ↔ .json ∈ choices
  format : ∀ format, .format format ∈ choices → options.format = format
  decimal : (∀ format, .format format ∉ choices) → options.format = .decimal

namespace Settings

/-- Settings hold these values and these options and nothing else. -/
structure Holds (settings : Settings) (texts : List String) (choices : List Choice) : Prop where
  values : settings.values = texts
  trace : settings.trace = true ↔ .trace ∈ choices
  json : settings.json = true ↔ .json ∈ choices
  format : ∀ format, settings.format = some format ↔ .format format ∈ choices

/-- At first settings hold nothing. -/
theorem holds_empty : Holds {} [] [] where
  values := rfl
  trace := by decide
  json := by decide
  format format := by simp

/-- A text is taken as the next value. -/
theorem Holds.take_text {settings : Settings} {texts : List String} {choices : List Choice}
    (holds : Holds settings texts choices) (text : String) :
    ∃ after, Holds after (texts ++ [text]) choices ∧
      ∀ items, take checksumForm settings (.value text :: items) =
        take checksumForm after items := by
  refine ⟨{ settings with values := settings.values ++ [text] }, ?_, fun items => rfl⟩
  exact { holds with values := by rw [holds.values] }

/-- Texts are taken as the next values. -/
theorem Holds.take_texts {settings : Settings} {before : List String} {choices : List Choice}
    (holds : Holds settings before choices) (texts : List String) :
    ∃ after, Holds after (before ++ texts) choices ∧
      take checksumForm settings (texts.map .value) = .ok after := by
  induction texts generalizing settings before with
  | nil => exact ⟨settings, by rwa [List.append_nil], rfl⟩
  | cons text texts inductionHypothesis =>
    obtain ⟨next, holdsNext, taken⟩ := holds.take_text text
    obtain ⟨after, holdsAfter, rest⟩ := inductionHypothesis holdsNext
    rw [List.append_assoc] at holdsAfter
    exact ⟨after, holdsAfter, (taken _).trans rest⟩

/-- An option that has not been given before is taken. -/
theorem Holds.take_choice {settings : Settings} {texts : List String} {choices : List Choice}
    (holds : Holds settings texts choices) (choice : Choice)
    (fresh : choice.switch ∉ choices.map Choice.switch) :
    ∃ after, Holds after texts (choices ++ [choice]) ∧
      ∀ items, take checksumForm settings (choice.item :: items) =
        take checksumForm after items := by
  have absent (other : Choice) (same : other.switch = choice.switch) : other ∉ choices :=
    fun member => fresh (same ▸ List.mem_map_of_mem member)
  cases choice with
  | trace =>
    have unset : settings.trace = false := by
      rw [← Bool.not_eq_true, holds.trace]
      exact absent .trace rfl
    refine ⟨{ settings with trace := true }, ?_, fun items => ?_⟩
    · exact ⟨holds.values, by simp, by simp [holds.json], by simp [holds.format]⟩
    · rw [Choice.item, take, setFlag, unset]
      rfl
  | json =>
    have unset : settings.json = false := by
      rw [← Bool.not_eq_true, holds.json]
      exact absent .json rfl
    refine ⟨{ settings with json := true }, ?_, fun items => ?_⟩
    · exact ⟨holds.values, by simp [holds.trace], by simp, by simp [holds.format]⟩
    · rw [Choice.item, take, setFlag, unset]
      rfl
  | format value =>
    have unset : settings.format = none := by
      rw [Option.eq_none_iff_forall_ne_some]
      intro other set
      exact absent (.format other) rfl ((holds.format other).mp set)
    refine ⟨{ settings with format := some value }, ?_, fun items => ?_⟩
    · refine ⟨holds.values, by simp [holds.trace], by simp [holds.json], fun other => ?_⟩
      have others := absent (.format other) rfl
      simp [others, eq_comm]
    · rw [Choice.item, take, setFormat, unset, formatOfName?_nameOfFormat]
      rfl

/-- Options of which none is given twice are taken. -/
theorem Holds.take_choices {settings : Settings} {texts : List String} {taken : List Choice}
    (holds : Holds settings texts taken) (choices : List Choice)
    (once : ((taken ++ choices).map Choice.switch).Nodup) :
    ∃ after, Holds after texts (taken ++ choices) ∧
      ∀ items, take checksumForm settings (choices.map Choice.item ++ items) =
        take checksumForm after items := by
  induction choices generalizing settings taken with
  | nil => exact ⟨settings, by rwa [List.append_nil], fun items => rfl⟩
  | cons choice choices inductionHypothesis =>
    have fresh : choice.switch ∉ taken.map Choice.switch := by
      rw [List.map_append, List.nodup_append'] at once
      exact fun member => once.2.2 member (List.mem_cons_self ..)
    rw [List.append_cons] at once ⊢
    obtain ⟨next, holdsNext, first⟩ := holds.take_choice choice fresh
    obtain ⟨after, holdsAfter, rest⟩ := inductionHypothesis holdsNext once
    exact ⟨after, holdsAfter, fun items => (first _).trans (rest items)⟩

/-- The texts and options of arranged words are taken wherever they stand. -/
theorem Holds.take_arranged {settings : Settings} {before words texts : List String}
    {taken choices : List Choice} (holds : Holds settings before taken)
    (arranged : Arranged words texts choices)
    (once : ((taken ++ choices).map Choice.switch).Nodup) :
    ∃ after, Holds after (before ++ texts) (taken ++ choices) ∧
      ∀ rest, take checksumForm settings (checksumForm.items (words ++ rest)) =
        take checksumForm after (checksumForm.items rest) := by
  induction arranged generalizing settings before taken with
  | nil =>
    rw [List.append_nil, List.append_nil]
    exact ⟨settings, holds, fun rest => rfl⟩
  | text text plain _ inductionHypothesis =>
    obtain ⟨next, holdsNext, first⟩ := holds.take_text text
    obtain ⟨after, holdsAfter, others⟩ := inductionHypothesis holdsNext once
    rw [List.append_assoc] at holdsAfter
    refine ⟨after, holdsAfter, fun rest => ?_⟩
    rw [List.cons_append, Form.items_text _ text plain, first, others]
  | @options group words texts chosen choices spelled _ inductionHypothesis =>
    rw [← List.append_assoc] at once ⊢
    have here : ((taken ++ chosen).map Choice.switch).Nodup := by
      rw [List.map_append] at once
      exact once.of_append_left
    obtain ⟨next, holdsNext, first⟩ := holds.take_choices chosen here
    obtain ⟨after, holdsAfter, others⟩ := inductionHypothesis holdsNext once
    refine ⟨after, holdsAfter, fun rest => ?_⟩
    rw [List.append_assoc, take_spelled group chosen spelled, first, others]

/-- Settings that hold texts and options ask for the checksum of the texts. -/
theorem Holds.ofChecksum {settings : Settings} {texts : List String} {choices : List Choice}
    (holds : Holds settings texts choices) (options : Report.Options)
    (asks : Asks choices options) :
    Invocation.ofChecksum settings = .ok (.checksum texts options) := by
  have trace : settings.trace = options.trace :=
    Bool.eq_iff_iff.mpr (holds.trace.trans asks.trace.symm)
  have json : settings.json = options.json :=
    Bool.eq_iff_iff.mpr (holds.json.trans asks.json.symm)
  have format : settings.format.getD .decimal = options.format := by
    cases set : settings.format with
    | some format => exact (asks.format format ((holds.format format).mp set)).symm
    | none =>
      refine (asks.decimal fun format member => ?_).symm
      exact nomatch set.symm.trans ((holds.format format).mpr member)
  have exclusive : (settings.trace && settings.json) = false := by
    rw [Bool.and_eq_false_iff, ← Bool.not_eq_true, ← Bool.not_eq_true, ← not_and_or, holds.trace,
      holds.json]
    exact asks.exclusive
  rw [Invocation.ofChecksum, exclusive, if_neg Bool.false_ne_true, holds.values, trace, json,
    format]

end Settings

end CardCrc.CommandLine
