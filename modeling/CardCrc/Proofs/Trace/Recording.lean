import CardCrc.Proofs.Trace.Showing

/-!
# Recording many messages

A recorder that has watched several messages, one after another and from any
registers, holds their steps one after another and the ends of their bytes
likewise. Eight steps belong to each end, so the steps of a recorded byte are
found by its position among all recorded bytes, whatever message it came with.

The index that a step carries counts within its own message and starts again at
zero with the next one. It therefore names the same byte as the position does
only as long as a single message has had any bytes.
-/

namespace CardCrc

/-- One watched message and the register that it goes into. -/
structure Run where
  /-- The register at the start. -/
  start : Register
  /-- The message. -/
  message : List UInt8
deriving DecidableEq

namespace Run

/-- The steps that the run shows. -/
def steps (run : Run) : List Step := (run.start.shown run.message).filterMap Event.step?

/-- The ends of bytes that the run shows. -/
def byteEnds (run : Run) : List Register := (run.start.shown run.message).filterMap Event.ending?

/-- The bytes of the run. -/
def passages (run : Run) : List Passage := run.start.passages run.message

end Run

namespace Recorder

/-- The recorder after one more watched message. -/
def record (recorder : Recorder) (run : Run) : Recorder :=
  (observer.watch run.start run.message recorder).2

/-- What a new recorder holds after some runs. -/
def ofRuns (runs : List Run) : Recorder := runs.foldl record empty

/-- What a recorder must hold and answer after some runs. -/
structure Follows (recorder : Recorder) (runs : List Run) : Prop where
  /-- The steps of the runs stand one after another. -/
  steps_eq : recorder.steps.toList = runs.flatMap Run.steps
  /-- So do the ends of their bytes. -/
  byteEnds_eq : recorder.byteEnds.toList = runs.flatMap Run.byteEnds
  /-- Eight steps belong to each end. -/
  size_eq : recorder.steps.size = 8 * recorder.byteEnds.size
  /-- The end of a byte shows the register of its eighth step. -/
  ending_eq : ∀ byte : Nat,
    recorder.byteEnds[byte]? = recorder.steps[8 * byte + 7]?.map Step.register
  /-- A recorded byte has its own eight steps, counting the bytes of all runs. -/
  stepsOf_recorded : ∀ byte < recorder.byteEnds.size, ∃ passage,
    (runs.flatMap Run.passages)[byte]? = some passage ∧
      recorder.stepsOf byte = passage.steps ∧ (recorder.stepsOf byte).length = 8
  /-- There are no steps beyond the recorded bytes. -/
  stepsOf_beyond : ∀ byte, recorder.byteEnds.size ≤ byte → recorder.stepsOf byte = []
  /-- Positions and indices name the same bytes as long as a single run has any. -/
  byIndex_iff :
    (∀ byte, recorder.stepsOf byte =
      recorder.steps.toList.filter fun step => step.byteIndex = byte) ↔
    runs.countP (fun run => !run.message.isEmpty) ≤ 1

/-- The steps of a byte are eight places of the recorded steps, as far as these
go. Clamping both ends comes to the same as dropping and taking. -/
theorem stepsOf_eq (recorder : Recorder) (byte : Nat) :
    recorder.stepsOf byte = (recorder.steps.toList.drop (8 * byte)).take 8 := by
  have size : recorder.steps.size = recorder.steps.toList.length := rfl
  simp only [stepsOf, lastStep, firstStep, Array.toList_extract, List.extract_eq_take_drop, size]
  by_cases within : byte * 8 ≤ recorder.steps.toList.length
  · rw [Nat.min_eq_left within, Nat.mul_comm byte 8, List.take_eq_take_iff, List.length_drop]
    omega
  · have beyond : recorder.steps.toList.length ≤ byte * 8 := by omega
    rw [Nat.min_eq_right beyond, List.drop_length, Nat.mul_comm 8 byte,
      List.drop_of_length_le beyond, List.take_nil, List.take_nil]

end Recorder

/-! ## The bytes of one run -/

namespace Register

/-- Indices grow along a message. -/
theorem le_byteIndex_of_mem (register : Register) (byteIndex : Nat) (message : List UInt8)
    (passage : Passage) (member : passage ∈ register.passagesFrom byteIndex message) :
    byteIndex ≤ passage.byteIndex := by
  obtain ⟨index, found⟩ := List.mem_iff_getElem?.mp member
  rw [getElem?_passagesFrom, Option.map_eq_some_iff] at found
  obtain ⟨byte, -, rfl⟩ := found
  exact Nat.le_add_right byteIndex index

/-- Within a run the steps that carry an index are those of the byte at that
index. -/
theorem filter_byteIndex (register : Register) (byteIndex : Nat) (message : List UInt8)
    (index : Nat) :
    ((register.passagesFrom byteIndex message).flatMap Passage.steps).filter
        (fun step => step.byteIndex = byteIndex + index) =
      ((register.passagesFrom byteIndex message)[index]?.map Passage.steps).getD [] := by
  induction message generalizing register byteIndex index with
  | nil => rfl
  | cons byte rest inductionHypothesis =>
    let passage : Passage := { start := register, byteIndex, byte }
    have own : ∀ step ∈ passage.steps, step.byteIndex = byteIndex :=
      fun step member => passage.byteIndex_of_mem_steps step member
    rw [passagesFrom, List.flatMap_cons, List.filter_append]
    cases index with
    | zero =>
      have mine : passage.steps.filter (fun step => step.byteIndex = byteIndex + 0) =
          passage.steps :=
        List.filter_eq_self.mpr fun step member => by simp [own step member]
      have others : (((register.push byte).passagesFrom (byteIndex + 1) rest).flatMap
          Passage.steps).filter (fun step => step.byteIndex = byteIndex + 0) = [] := by
        rw [List.filter_eq_nil_iff]
        intro step member
        obtain ⟨later, passes, shows⟩ := List.mem_flatMap.mp member
        have above := le_byteIndex_of_mem _ _ rest later passes
        have carried := later.byteIndex_of_mem_steps step shows
        simp only [decide_eq_true_eq]
        omega
      rw [mine, others, List.append_nil]
      rfl
    | succ index =>
      have mine : passage.steps.filter (fun step => step.byteIndex = byteIndex + (index + 1)) =
          [] := by
        rw [List.filter_eq_nil_iff]
        intro step member
        have carried := own step member
        simp only [decide_eq_true_eq]
        omega
      have later := inductionHypothesis (register.push byte) (byteIndex + 1) index
      rw [show byteIndex + 1 + index = byteIndex + (index + 1) by omega] at later
      rw [mine, List.nil_append, later]
      rfl

end Register

namespace Run

/-- The steps of a run are those of its bytes. -/
theorem steps_eq (run : Run) : run.steps = run.passages.flatMap Passage.steps :=
  run.start.filterMap_step_shown run.message

/-- The ends of a run are those of its bytes. -/
theorem byteEnds_eq (run : Run) : run.byteEnds = run.passages.map Passage.finish :=
  run.start.filterMap_ending_shown run.message

/-- A run without bytes shows nothing. -/
theorem passages_of_isEmpty (run : Run) (silent : run.message.isEmpty = true) :
    run.passages = [] := by
  rw [passages, List.isEmpty_iff.mp silent]
  rfl

/-- The first byte of a run accounts for the steps that carry index zero. -/
theorem countP_first (run : Run) :
    run.steps.countP (fun step => step.byteIndex = 0) = if run.message.isEmpty then 0 else 8 := by
  have first := run.start.filter_byteIndex 0 run.message 0
  rw [run.steps_eq, List.countP_eq_length_filter, passages, Register.passages]
  cases bytes : run.message with
  | nil => rfl
  | cons byte rest =>
    rw [bytes] at first
    exact (congrArg List.length first).trans (Passage.length_steps _)

/-- Runs together show as many steps with index zero as eight times the runs that
have bytes. -/
theorem countP_firsts (runs : List Run) :
    (runs.flatMap steps).countP (fun step => step.byteIndex = 0) =
      8 * runs.countP fun run => !run.message.isEmpty := by
  induction runs with
  | nil => rfl
  | cons run rest inductionHypothesis =>
    rw [List.flatMap_cons, List.countP_append, inductionHypothesis, countP_first,
      List.countP_cons]
    cases run.message.isEmpty with
    | true => simp
    | false => simp [Nat.mul_add, Nat.add_comm]

/-- If at most one run has bytes, the bytes of all runs are those of a single
one. -/
theorem exists_single (runs : List Run)
    (few : runs.countP (fun run => !run.message.isEmpty) ≤ 1) :
    ∃ run : Run, runs.flatMap passages = run.passages := by
  induction runs with
  | nil => exact ⟨{ start := Register.empty, message := [] }, rfl⟩
  | cons run rest inductionHypothesis =>
    by_cases silent : run.message.isEmpty = true
    · obtain ⟨single, others⟩ := inductionHypothesis (by simpa [silent] using few)
      refine ⟨single, ?_⟩
      rw [List.flatMap_cons, run.passages_of_isEmpty silent, List.nil_append, others]
    · have noMore : rest.countP (fun run => !run.message.isEmpty) = 0 := by
        simpa [silent] using few
      have others : rest.flatMap passages = [] := by
        rw [List.flatMap_eq_nil_iff]
        intro other member
        exact other.passages_of_isEmpty (by simpa using List.countP_eq_zero.mp noMore other member)
      exact ⟨run, by rw [List.flatMap_cons, others, List.append_nil]⟩

end Run

/-! ## The recorder after many runs -/

namespace Recorder

/-- The recorder holds what some bytes showed, and nothing else. -/
structure Holds (recorder : Recorder) (passages : List Passage) : Prop where
  /-- The steps of the bytes in order. -/
  steps_eq : recorder.steps.toList = passages.flatMap Passage.steps
  /-- The ends of the bytes in order. -/
  byteEnds_eq : recorder.byteEnds.toList = passages.map Passage.finish

namespace Holds

variable {recorder : Recorder} {passages : List Passage} (holds : recorder.Holds passages)

include holds

/-- There is one end for each byte. -/
theorem size_byteEnds : recorder.byteEnds.size = passages.length := by
  rw [← Array.length_toList, holds.byteEnds_eq, List.length_map]

/-- There are eight steps for each byte. -/
theorem size_steps : recorder.steps.size = 8 * passages.length := by
  rw [← Array.length_toList, holds.steps_eq,
    length_flatMap_uniform Passage.steps 8 Passage.length_steps]

/-- The steps found for a byte are its own. -/
theorem stepsOf_eq (byte : Nat) :
    recorder.stepsOf byte = (passages[byte]?.map Passage.steps).getD [] := by
  rw [Recorder.stepsOf_eq, holds.steps_eq, slice_flatMap Passage.steps 8 Passage.length_steps]

/-- The end of a byte shows the register of its last step. -/
theorem ending_eq (byte : Nat) :
    recorder.byteEnds[byte]? = recorder.steps[8 * byte + 7]?.map Step.register := by
  rw [← Array.getElem?_toList, ← Array.getElem?_toList, holds.steps_eq, holds.byteEnds_eq,
    getElem?_flatMap Passage.steps 8 Passage.length_steps passages byte 7 (by decide),
    List.getElem?_map]
  cases passages[byte]? with
  | none => rfl
  | some passage => exact congrArg some passage.register_last.symm

end Holds

/-- A run adds its steps and the ends of its bytes to what is recorded. -/
theorem record_eq (recorder : Recorder) (run : Run) :
    (recorder.record run).steps.toList = recorder.steps.toList ++ run.steps ∧
      (recorder.record run).byteEnds.toList = recorder.byteEnds.toList ++ run.byteEnds := by
  rw [record, Observer.watch_eq]
  exact recorder.foldl_receive (run.start.shown run.message)

/-- Runs add their steps and the ends of their bytes in order. -/
theorem foldl_record (recorder : Recorder) (runs : List Run) :
    (runs.foldl record recorder).steps.toList =
        recorder.steps.toList ++ runs.flatMap Run.steps ∧
      (runs.foldl record recorder).byteEnds.toList =
        recorder.byteEnds.toList ++ runs.flatMap Run.byteEnds := by
  induction runs generalizing recorder with
  | nil => simp
  | cons run rest inductionHypothesis =>
    obtain ⟨steps, endings⟩ := recorder.record_eq run
    obtain ⟨laterSteps, laterEndings⟩ := inductionHypothesis (recorder.record run)
    rw [List.foldl_cons, laterSteps, laterEndings, steps, endings]
    simp [List.append_assoc]

/-- A new recorder holds the steps of its runs. -/
theorem steps_ofRuns (runs : List Run) :
    (ofRuns runs).steps.toList = runs.flatMap Run.steps :=
  (foldl_record empty runs).1

/-- A new recorder holds the ends of its runs. -/
theorem byteEnds_ofRuns (runs : List Run) :
    (ofRuns runs).byteEnds.toList = runs.flatMap Run.byteEnds :=
  (foldl_record empty runs).2

/-- A new recorder holds the bytes of all its runs. -/
theorem ofRuns_holds (runs : List Run) : (ofRuns runs).Holds (runs.flatMap Run.passages) where
  steps_eq := by rw [steps_ofRuns, List.flatMap_assoc, funext Run.steps_eq]
  byteEnds_eq := by rw [byteEnds_ofRuns, List.map_flatMap, funext Run.byteEnds_eq]

/-- Positions and indices name the same bytes exactly as long as at most one run
has any. Of two runs with bytes both show steps with index zero, which are too
many for one position. -/
theorem stepsOf_eq_filter_iff (runs : List Run) :
    (∀ byte, (ofRuns runs).stepsOf byte =
      (ofRuns runs).steps.toList.filter fun step => step.byteIndex = byte) ↔
    runs.countP (fun run => !run.message.isEmpty) ≤ 1 := by
  constructor
  · intro agree
    have first := congrArg List.length (agree 0)
    rw [steps_ofRuns, ← List.countP_eq_length_filter, Run.countP_firsts, stepsOf_eq] at first
    have atMostEight := List.length_take_le 8 ((ofRuns runs).steps.toList.drop (8 * 0))
    omega
  · intro few byte
    obtain ⟨run, single⟩ := Run.exists_single runs few
    have byIndex := run.start.filter_byteIndex 0 run.message byte
    rw [Nat.zero_add] at byIndex
    rw [(ofRuns_holds runs).stepsOf_eq, (ofRuns_holds runs).steps_eq, single]
    exact byIndex.symm

/-- Any number of runs leave a new recorder with what they show. -/
theorem ofRuns_follows (runs : List Run) : (ofRuns runs).Follows runs := by
  have holds := ofRuns_holds runs
  refine ⟨steps_ofRuns runs, byteEnds_ofRuns runs, ?_, holds.ending_eq, ?_, ?_,
    stepsOf_eq_filter_iff runs⟩
  · rw [holds.size_steps, holds.size_byteEnds]
  · intro byte inside
    rw [holds.size_byteEnds] at inside
    have present := List.getElem?_eq_getElem inside
    have own := holds.stepsOf_eq byte
    rw [present] at own
    exact ⟨_, present, own, own ▸ Passage.length_steps _⟩
  · intro byte beyond
    rw [holds.size_byteEnds] at beyond
    rw [holds.stepsOf_eq, List.getElem?_eq_none beyond]
    rfl

end Recorder

end CardCrc
