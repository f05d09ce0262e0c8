import CardCrc.Proofs.Session.Effects

/-!
# Recordings of a session

The recorder of a session has watched the messages that were fed before its
eyes, from whatever state their registers were in by then. Messages that nobody
watched, single bytes, emptied and copied registers leave no trace in it except
through the registers that later messages meet.

From a new or a cleared recorder on, and as long as nothing is shown to it
directly, its contents are therefore those of the runs that it has watched.
-/

namespace CardCrc

/-- An action that leaves the recorder to what it watches: nothing is shown to it
directly, and it is not cleared. -/
def Action.leavesRecorder : Action → Bool
  | .recordBit _ => false
  | .recordByteEnd _ _ => false
  | .clear => false
  | _ => true

namespace Session

/-- The run that an action lets the recorder watch, if it does. -/
def watched? (session : Session) : Action → Option Run
  | .watch side message .recorder => some { start := session.register side, message }
  | .watch side message .session => some { start := session.register side, message }
  | _ => none

/-- The runs that a sequence of actions lets the recorder watch. -/
def runs (session : Session) : List Action → List Run
  | [] => []
  | action :: rest => (session.watched? action).toList ++ (session.act action).runs rest

/-- An action that leaves the recorder to what it watches records its run and
nothing else. -/
theorem recorder_act_of_leaves (session : Session) (action : Action)
    (leaves : action.leavesRecorder = true) :
    (session.act action).recorder =
      (session.watched? action).toList.foldl Recorder.record session.recorder := by
  rw [recorder_act]
  cases action with
  | watch side message watcher => cases watcher <;> rfl
  | reset side => rfl
  | append side message => rfl
  | push side byte => rfl
  | copy side => rfl
  | recordBit step => exact nomatch leaves
  | recordByteEnd byteIndex register => exact nomatch leaves
  | clear => exact nomatch leaves

/-- Such actions record their runs in order. -/
theorem recorder_run_of_leaves (session : Session) (actions : List Action)
    (leave : ∀ action ∈ actions, action.leavesRecorder = true) :
    (session.run actions).recorder =
      (session.runs actions).foldl Recorder.record session.recorder := by
  induction actions generalizing session with
  | nil => rfl
  | cons action rest inductionHypothesis =>
    have first := session.recorder_act_of_leaves action (leave action List.mem_cons_self)
    have later := inductionHypothesis (session.act action)
      fun other member => leave other (List.mem_cons_of_mem action member)
    rw [runs, List.foldl_append, ← first]
    exact later

/-- A recorder that has watched any runs, from any registers, holds and answers
what these runs showed. So does the recorder of a session, from when it is empty
and as long as nothing is shown to it directly, for the runs that it has watched
since. -/
theorem recordings_follow_runs :
    (∀ runs : List Run, (Recorder.ofRuns runs).Follows runs) ∧
    ∀ (session : Session) (actions : List Action), session.recorder = Recorder.empty →
      (∀ action ∈ actions, action.leavesRecorder = true) →
      (session.run actions).recorder.Follows (session.runs actions) := by
  refine ⟨Recorder.ofRuns_follows, ?_⟩
  intro session actions nothing leave
  have recorded := session.recorder_run_of_leaves actions leave
  rw [nothing] at recorded
  rw [recorded]
  exact Recorder.ofRuns_follows (session.runs actions)

/-- After a message of one byte, an empty one and one of two bytes, three bytes
are recorded. The second of them is the first of its message, so that its steps
carry index zero and are found by position only. -/
theorem recordings_follow_runs_three_messages :
    let actions : List Action :=
      [.watch .left [0x40] .recorder, .push .left 0x07, .copy .right, .watch .right [] .session,
        .watch .right [0x11, 0x22] .session, .reset .left]
    let recorder := (start.run actions).recorder
    (∀ action ∈ actions, action.leavesRecorder = true) ∧
      recorder.byteEnds.size = 3 ∧ recorder.steps.size = 24 ∧
      (recorder.stepsOf 1).length = 8 ∧ recorder.stepsOf 3 = [] ∧
      recorder.byteEnds[2]? = recorder.steps[23]?.map Step.register ∧
      ¬ ∀ byte, recorder.stepsOf byte =
        recorder.steps.toList.filter fun step => step.byteIndex = byte := by
  intro actions recorder
  have leave : ∀ action ∈ actions, action.leavesRecorder = true := by decide
  have follows := recordings_follow_runs.2 start actions rfl leave
  have three : recorder.byteEnds.size = 3 := by decide +kernel
  have twoWithBytes :
      (start.runs actions).countP (fun run => !run.message.isEmpty) = 2 := by decide +kernel
  obtain ⟨passage, -, -, eight⟩ := follows.stepsOf_recorded 1 (by rw [three]; decide)
  refine ⟨leave, three, ?_, eight, follows.stepsOf_beyond 3 (Nat.le_of_eq three),
    follows.ending_eq 2, ?_⟩
  · rw [follows.size_eq, three]
  · rw [follows.byIndex_iff, twoWithBytes]
    decide

end Session

end CardCrc
