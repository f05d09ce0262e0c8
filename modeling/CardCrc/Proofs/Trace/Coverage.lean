import CardCrc.Proofs.Session.Effects

/-!
# What a listing covers

A listing goes by the ends of bytes. It has a separator for each of them, and in
front of it the next eight steps as far as there are any. A recorder that is shown
steps and ends one by one can hold steps that no end follows, or ends without
steps. The steps behind the last eight that are due are then left out, or the last
separators follow one another.

Either way the steps that are listed are the first ones, each once and in the
order in which they were recorded.
-/

namespace CardCrc

/-- The line of a step is no separator, as it has a space in it. -/
theorem Step.line_ne_separator (step : Step) : step.line ≠ Recorder.separator := by
  have space : ' ' ∈ step.line.toList := by
    rw [line, String.toList_append, String.toList_append]
    exact List.mem_append_left _ (List.mem_append_right _ (by decide))
  intro same
  rw [same] at space
  exact absurd space (by decide)

namespace Recorder

/-- Some lines have a number of separators and, apart from these, the lines of the
first recorded steps up to a number of steps. -/
structure Lists (recorder : Recorder) (steps separators : Nat) (lines : List String) : Prop where
  /-- The separators are counted. -/
  count_eq : lines.count separator = separators
  /-- The other lines are those of the steps, in order. -/
  filter_eq : lines.filter (· ≠ separator) = (recorder.steps.toList.take steps).map Step.line

namespace Lists

variable {recorder : Recorder} {steps separators : Nat} {lines : List String}
  (lists : recorder.Lists steps separators lines)

include lists

/-- The lines of steps are as many as there are steps to be listed. -/
theorem length_filter : (lines.filter (· ≠ separator)).length = min steps recorder.steps.size := by
  rw [lists.filter_eq, List.length_map, List.length_take, Array.length_toList]

/-- Every line is a separator or the line of a step. -/
theorem length_eq : lines.length = separators + min steps recorder.steps.size := by
  have parts : lines.length =
      lines.count separator + lines.countP (fun line => decide ¬ (line == separator) = true) :=
    List.length_eq_countP_add_countP (· == separator)
  have others : lines.countP (fun line => decide ¬ (line == separator) = true) =
      min steps recorder.steps.size := by
    rw [← lists.length_filter, List.countP_eq_length_filter]
    simp
  rw [parts, others, lists.count_eq]

/-- The steps of the byte that comes next are listed behind those listed so far. -/
theorem add_byte {byte : Nat} (due : steps = 8 * byte) :
    recorder.Lists (8 * (byte + 1)) separators
      (lines ++ (recorder.stepsOf byte).map Step.line) := by
  subst due
  have noSeparator : separator ∉ (recorder.stepsOf byte).map Step.line := by
    intro member
    obtain ⟨step, -, same⟩ := List.mem_map.mp member
    exact step.line_ne_separator same
  have kept : ((recorder.stepsOf byte).map Step.line).filter (· ≠ separator) =
      (recorder.stepsOf byte).map Step.line := by
    rw [List.filter_eq_self]
    intro line member
    exact decide_eq_true fun same => noSeparator (same ▸ member)
  refine ⟨?_, ?_⟩
  · rw [List.count_append, lists.count_eq, List.count_eq_zero.mpr noSeparator, Nat.add_zero]
  · rw [List.filter_append, lists.filter_eq, kept, stepsOf_eq, ← List.map_append,
      ← List.take_add, Nat.mul_succ]

/-- A separator adds to the separators only. -/
theorem add_separator : recorder.Lists steps (separators + 1) (lines ++ [separator]) := by
  refine ⟨?_, ?_⟩
  · rw [List.count_append, lists.count_eq, List.count_singleton_self]
  · rw [List.filter_append, lists.filter_eq]
    simp

end Lists

/-- The lines of the first bytes list eight steps for each of them, as far as there
are so many. -/
theorem lists_range (recorder : Recorder) (bytes : Nat) :
    recorder.Lists (8 * bytes) bytes ((List.range bytes).flatMap recorder.linesOf) := by
  induction bytes with
  | zero => exact ⟨rfl, rfl⟩
  | succ bytes inductionHypothesis =>
    have next := (inductionHypothesis.add_byte rfl).add_separator
    rw [List.append_assoc] at next
    rw [List.range_succ, List.flatMap_append, List.flatMap_singleton]
    exact next

/-- The lines of a byte that has ended stand behind those of the bytes before it. -/
theorem lines_eq_append (recorder : Recorder) (byte : Nat)
    (ended : byte < recorder.byteEnds.size) :
    ∃ after, recorder.lines =
      ((List.range byte).flatMap recorder.linesOf ++ (recorder.stepsOf byte).map Step.line) ++
        separator :: after := by
  obtain ⟨later, rest⟩ : ∃ later, recorder.byteEnds.size = byte + 1 + later :=
    Nat.exists_eq_add_of_le ended
  refine ⟨((List.range later).map (byte + 1 + ·)).flatMap recorder.linesOf, ?_⟩
  rw [lines, rest, List.range_add, List.range_succ]
  simp [linesOf, List.append_assoc]

end Recorder

namespace Session

/-- Steps shown one by one are recorded behind those recorded before. -/
theorem recorder_run_recordBit (session : Session) (steps : List Step) :
    (session.run (steps.map Action.recordBit)).recorder =
      { session.recorder with steps := session.recorder.steps ++ steps.toArray } := by
  induction steps generalizing session with
  | nil => simp [run]
  | cons step rest inductionHypothesis =>
    have later := inductionHypothesis (session.act (.recordBit step))
    rw [run] at later
    rw [run, List.map_cons, List.foldl_cons, later, recorder_act]
    simp [Recorder.recordBit]

/-- So are the ends of bytes. -/
theorem recorder_run_recordByteEnd (session : Session) (byteEnds : List Register) :
    (session.run (byteEnds.map (Action.recordByteEnd 0))).recorder =
      { session.recorder with byteEnds := session.recorder.byteEnds ++ byteEnds.toArray } := by
  induction byteEnds generalizing session with
  | nil => simp [run]
  | cons register rest inductionHypothesis =>
    have later := inductionHypothesis (session.act (.recordByteEnd 0 register))
    rw [run] at later
    rw [run, List.map_cons, List.foldl_cons, later, recorder_act]
    simp [Recorder.recordByteEnd]

/-- Every recorder is what some actions leave in a new session. -/
theorem exists_actions (recorder : Recorder) :
    ∃ actions, (start.run actions).recorder = recorder := by
  refine ⟨recorder.steps.toList.map Action.recordBit ++
    recorder.byteEnds.toList.map (Action.recordByteEnd 0), ?_⟩
  have split : start.run (recorder.steps.toList.map Action.recordBit ++
      recorder.byteEnds.toList.map (Action.recordByteEnd 0)) =
      (start.run (recorder.steps.toList.map Action.recordBit)).run
        (recorder.byteEnds.toList.map (Action.recordByteEnd 0)) := List.foldl_append
  rw [split, recorder_run_recordByteEnd, recorder_run_recordBit]
  simp [start, Recorder.empty]

end Session

namespace Recorder

/-- Whatever a recorder has been shown, its listing has a separator for each byte
that has ended. The other lines are those of the first steps, in order: of eight
steps for each such byte, or of all steps if these are fewer. In front of the
separator of a byte are the lines of the steps due to it and to the bytes before
it. The steps of a byte, ended or not, are looked for within those recorded.

The recorders are those that some actions leave, so there is no more to ask of
what they have been shown. -/
theorem first_steps_listed (recorder : Recorder) :
    (∃ actions, (Session.start.run actions).recorder = recorder) ∧
    recorder.lines.length =
      recorder.byteEnds.size + min recorder.steps.size (8 * recorder.byteEnds.size) ∧
    recorder.lines.count separator = recorder.byteEnds.size ∧
    recorder.lines.filter (· ≠ separator) =
      (recorder.steps.toList.take (min recorder.steps.size (8 * recorder.byteEnds.size))).map
        Step.line ∧
    (∀ byte < recorder.byteEnds.size, ∃ before after,
      recorder.lines = before ++ separator :: after ∧ before.count separator = byte ∧
        (before.filter (· ≠ separator)).length = min (8 * (byte + 1)) recorder.steps.size) ∧
    ∀ byte, recorder.firstStep byte ≤ recorder.lastStep byte ∧
      recorder.lastStep byte ≤ recorder.steps.size := by
  have whole : recorder.Lists (8 * recorder.byteEnds.size) recorder.byteEnds.size recorder.lines :=
    recorder.lists_range recorder.byteEnds.size
  refine ⟨Session.exists_actions recorder, ?_, whole.count_eq, ?_, ?_, ?_⟩
  · rw [whole.length_eq, Nat.min_comm]
  · rw [whole.filter_eq, List.take_eq_take_min, Array.length_toList, Nat.min_comm]
  · intro byte ended
    obtain ⟨after, divided⟩ := recorder.lines_eq_append byte ended
    have before := (recorder.lists_range byte).add_byte rfl
    exact ⟨_, after, divided, before.count_eq, before.length_filter⟩
  · intro byte
    have within : recorder.firstStep byte ≤ recorder.steps.size := Nat.min_le_right _ _
    exact ⟨Nat.le_min.mpr ⟨Nat.le_add_right _ 8, within⟩, Nat.min_le_right _ _⟩

/-- A recorder is shown the ends of two bytes and a single step, and watches a
message of one byte then. It has nine steps for three bytes, so all nine are listed
in front of the second separator already. -/
theorem first_steps_listed_ends_first : ∃ recorder : Recorder,
    recorder.steps.size = 9 ∧ recorder.byteEnds.size = 3 ∧ recorder.lines.length = 12 ∧
    ∃ before after, recorder.lines = before ++ separator :: after ∧ before.count separator = 1 ∧
      (before.filter (· ≠ separator)).length = 9 := by
  let step := Step.ofBit Register.empty 0 0xFF 0
  let recorder := (Session.start.run [.recordByteEnd 0 3, .recordByteEnd 1 5, .recordBit step,
    .watch .left [0xFF] .recorder]).recorder
  have nine : recorder.steps.size = 9 := by decide
  have three : recorder.byteEnds.size = 3 := by decide
  obtain ⟨-, all, -, -, inFront, -⟩ := recorder.first_steps_listed
  have second := inFront 1 (by rw [three]; decide)
  rw [nine] at all second
  rw [three] at all
  exact ⟨recorder, nine, three, all, second⟩

end Recorder

end CardCrc
