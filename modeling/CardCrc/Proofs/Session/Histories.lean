import CardCrc.Proofs.Session.Effects

/-!
# Histories of a session

The history of a register is what it has been fed since it was last emptied. A
copied register takes over the history of the one it was copied from. The
history knows nothing of checksums and of who watched; yet it says all there is
to say about the register, which is at all times what an empty register becomes
when it is fed its history in one piece.

It follows that pieces do not matter. A register that is neither emptied nor
overwritten takes in the bytes that are fed to it, in whatever pieces and by
whatever mixture of actions, and whatever happens to the other register and to
the recorder in between.
-/

namespace CardCrc

/-- What each register has been fed since it was last emptied. -/
abbrev Histories := Side → List UInt8

namespace Histories

/-- In a new session nothing has been fed. -/
def start : Histories := fun _ => []

/-- What an action does to the histories. -/
def act (histories : Histories) : Action → Histories
  | .reset side => Function.update histories side []
  | .append side message => Function.update histories side (histories side ++ message)
  | .push side byte => Function.update histories side (histories side ++ [byte])
  | .watch side message _ => Function.update histories side (histories side ++ message)
  | .copy side => Function.update histories side (histories side.other)
  | .recordBit _ => histories
  | .recordByteEnd _ _ => histories
  | .clear => histories

/-- What a sequence of actions does to the histories. -/
def run (histories : Histories) (actions : List Action) : Histories := actions.foldl act histories

end Histories

namespace Action

/-- The register that an action is about. Showing the recorder something and
clearing it is about neither. -/
def side? : Action → Option Side
  | .reset side => some side
  | .append side _ => some side
  | .push side _ => some side
  | .watch side _ _ => some side
  | .copy side => some side
  | .recordBit _ => none
  | .recordByteEnd _ _ => none
  | .clear => none

/-- The action gives a register a content that does not depend on what was in it. -/
def Overwrites (action : Action) (side : Side) : Prop :=
  action = .reset side ∨ action = .copy side

/-- The bytes that an action feeds to a register. -/
def fedTo (side : Side) : Action → List UInt8
  | .append fed message => if fed = side then message else []
  | .push fed byte => if fed = side then [byte] else []
  | .watch fed message _ => if fed = side then message else []
  | _ => []

end Action

namespace Register

/-- The checksum byte without its stop bit is the checksum. -/
theorem framed_shiftRight (register : Register) : register.framed >>> 1 = register.value := by
  apply UInt8.toBitVec_inj.mp
  change (register.toBitVec <<< 1 ||| 1#8) >>> 1 = register.toBitVec &&& 0x7F#8
  generalize register.toBitVec = word
  revert word
  decide +kernel

end Register

namespace Session

/-- Both registers are what an empty one becomes when it is fed their history. -/
def Follows (session : Session) (histories : Histories) : Prop :=
  ∀ side, session.register side = Register.empty.append (histories side)

/-- Every action takes register and history along together. -/
theorem follows_act (session : Session) (histories : Histories) (action : Action)
    (follows : session.Follows histories) :
    (session.act action).Follows (histories.act action) := by
  have updated (side : Side) (register : Register) (history : List UInt8)
      (corresponds : register = Register.empty.append history) (asked : Side) :
      Function.update session.register side register asked =
        Register.empty.append (Function.update histories side history asked) :=
    Side.related_update (fun register history => register = Register.empty.append history)
      follows side corresponds asked
  have fed (side : Side) (message : List UInt8) :
      (session.register side).append message =
        Register.empty.append (histories side ++ message) := by
    rw [Register.append_append, follows side]
  intro asked
  rw [register_act]
  cases action with
  | reset side => exact updated side Register.empty [] rfl asked
  | append side message => exact updated side _ _ (fed side message) asked
  | push side byte => exact updated side _ _ (fed side [byte]) asked
  | watch side message watcher => exact updated side _ _ (fed side message) asked
  | copy side => exact updated side _ _ (follows side.other) asked
  | recordBit step => exact follows asked
  | recordByteEnd byteIndex register => exact follows asked
  | clear => exact follows asked

/-- So does every sequence of actions. -/
theorem follows_run (session : Session) (histories : Histories) (actions : List Action)
    (follows : session.Follows histories) :
    (session.run actions).Follows (histories.run actions) := by
  induction actions generalizing session histories with
  | nil => exact follows
  | cons action rest inductionHypothesis =>
    exact inductionHypothesis (session.act action) (histories.act action)
      (session.follows_act histories action follows)

/-- A register that an action does not overwrite takes in what the action feeds
to it. -/
theorem register_act_of_kept (session : Session) (action : Action) (side : Side)
    (kept : ¬ action.Overwrites side) :
    (session.act action).register side = (session.register side).append (action.fedTo side) := by
  have updated (fed : Side) (message : List UInt8) :
      Function.update session.register fed ((session.register fed).append message) side =
        (session.register side).append (if fed = side then message else []) := by
    by_cases same : fed = side
    · subst same
      rw [Function.update_self, if_pos rfl]
    · rw [Function.update_of_ne (Ne.symm same), if_neg same]
      rfl
  have elsewhere (other : Side) (different : other ≠ side) (register : Register) :
      Function.update session.register other register side = (session.register side).append [] := by
    rw [Function.update_of_ne (Ne.symm different)]
    rfl
  rw [register_act]
  cases action with
  | reset other => exact elsewhere other (fun same => kept (Or.inl (same ▸ rfl))) _
  | append fed message => exact updated fed message
  | push fed byte => exact updated fed [byte]
  | watch fed message watcher => exact updated fed message
  | copy other => exact elsewhere other (fun same => kept (Or.inr (same ▸ rfl))) _
  | recordBit step => rfl
  | recordByteEnd byteIndex register => rfl
  | clear => rfl

/-- A register that no action overwrites takes in all that the actions feed to
it, in order. -/
theorem register_run_of_kept (session : Session) (actions : List Action) (side : Side)
    (kept : ∀ action ∈ actions, ¬ action.Overwrites side) :
    (session.run actions).register side =
      (session.register side).append (actions.flatMap (Action.fedTo side)) := by
  induction actions generalizing session with
  | nil => rfl
  | cons action rest inductionHypothesis =>
    have first := session.register_act_of_kept action side (kept action List.mem_cons_self)
    have later := inductionHypothesis (session.act action)
      fun other member => kept other (List.mem_cons_of_mem action member)
    rw [List.flatMap_cons, Register.append_append, ← first]
    exact later

end Session

namespace Action

/-- An action that is about something else does not overwrite a register. -/
theorem not_overwrites_of_elsewhere (action : Action) (side : Side)
    (elsewhere : action.side? ≠ some side) : ¬ action.Overwrites side := by
  rintro (rfl | rfl)
  · exact elsewhere rfl
  · exact elsewhere rfl

/-- Nor does it feed the register. -/
theorem fedTo_of_elsewhere (action : Action) (side : Side)
    (elsewhere : action.side? ≠ some side) : action.fedTo side = [] := by
  have apart (fed : Side) (about : action.side? = some fed) : fed ≠ side := by
    rintro rfl
    exact elsewhere about
  cases action with
  | append fed message => exact if_neg (apart fed rfl)
  | push fed byte => exact if_neg (apart fed rfl)
  | watch fed message watcher => exact if_neg (apart fed rfl)
  | reset other => rfl
  | copy other => rfl
  | recordBit step => rfl
  | recordByteEnd byteIndex register => rfl
  | clear => rfl

end Action

namespace Session

/-- After any number of actions of a session each register is, with all its eight
bits, an empty register that has been fed its history at once. Its checksum byte
is the checksum of its history, and its checksum that byte without the stop bit.

In any session, a register that is neither emptied nor overwritten takes in the
bytes fed to it, however they are divided and whoever watches them. Actions that
are about the other register, or about the recorder, leave it as it is. -/
theorem registers_follow_histories :
    (∀ (actions : List Action) (count : Nat) (side : Side),
      let register := (start.run (actions.take count)).register side
      let history := Histories.start.run (actions.take count) side
      register = Register.empty.append history ∧ register.framed = crc7 history ∧
        register.value = crc7 history >>> 1) ∧
    (∀ (session : Session) (actions : List Action) (side : Side),
      (∀ action ∈ actions, ¬ action.Overwrites side) →
      (session.run actions).register side =
        (session.register side).append (actions.flatMap (Action.fedTo side))) ∧
    ∀ (session : Session) (actions : List Action) (side : Side),
      (∀ action ∈ actions, action.side? ≠ some side) →
      (session.run actions).register side = session.register side := by
  refine ⟨?_, register_run_of_kept, ?_⟩
  · intro actions count side register history
    have empty : start.Follows Histories.start := by
      intro asked
      cases asked <;> rfl
    have follows : register = Register.empty.append history :=
      start.follows_run Histories.start (actions.take count) empty side
    have framed : register.framed = crc7 history := by rw [follows, crc7]
    exact ⟨follows, framed, by rw [← framed, Register.framed_shiftRight]⟩
  · intro session actions side elsewhere
    have kept : ∀ action ∈ actions, ¬ action.Overwrites side :=
      fun action member => action.not_overwrites_of_elsewhere side (elsewhere action member)
    have nothing : actions.flatMap (Action.fedTo side) = [] :=
      List.flatMap_eq_nil_iff.mpr fun action member =>
        action.fedTo_of_elsewhere side (elsewhere action member)
    rw [session.register_run_of_kept actions side kept, nothing]
    rfl

/-- The digits 1 to 9 go into the left register in four pieces and by three
actions, while the right one is fed and overwritten and the recorder is cleared.
The checksum byte is that of the nine digits. What happens on the right alone
leaves the left register as it is. -/
theorem registers_follow_histories_nine_digits :
    let pieces : List Action :=
      [.append .left [0x31, 0x32, 0x33], .push .right 0xFF, .watch .left [0x34, 0x35] .session,
        .copy .right, .clear, .push .left 0x36, .watch .left [0x37, 0x38, 0x39] .nobody]
    let elsewhere : List Action := [.push .right 0xFF, .copy .right, .clear]
    (∀ action ∈ pieces, ¬ action.Overwrites .left) ∧
      (start.run pieces).register .left =
        Register.empty.append [0x31, 0x32, 0x33, 0x34, 0x35, 0x36, 0x37, 0x38, 0x39] ∧
      ((start.run pieces).register .left).framed = 0xEB ∧
      (∀ action ∈ elsewhere, action.side? ≠ some .left) ∧
      (({ left := 0x92 } : Session).run elsewhere).register .left = 0x92 := by
  intro pieces elsewhere
  have kept : ∀ action ∈ pieces, ¬ action.Overwrites .left := by
    simp [pieces, Action.Overwrites]
  have onTheRight : ∀ action ∈ elsewhere, action.side? ≠ some .left := by decide
  have digits : Register.empty.append [0x31, 0x32, 0x33, 0x34, 0x35, 0x36, 0x37, 0x38, 0x39] =
      0x75 := by decide +kernel
  have taken := registers_follow_histories.2.1 start pieces .left kept
  have framed := (registers_follow_histories.1 pieces pieces.length .left).2.1
  refine ⟨kept, taken, ?_, onTheRight, ?_⟩
  · rw [List.take_length] at framed
    exact framed.trans (congrArg Register.framed digits)
  · exact registers_follow_histories.2.2 { left := 0x92 } elsewhere .left onTheRight

end Session

end CardCrc
