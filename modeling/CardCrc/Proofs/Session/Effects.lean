import CardCrc.Proofs.Trace.Recording
import Mathlib.Logic.Function.Basic

/-!
# What an action does to a session

Every action is described by its effect on the two registers and by its effect
on the recorder. A watched message has the same effect on its register as one
that nobody watches; who watches matters to the recorder only. Nothing that is
done to one register or to the recorder reaches the other register.
-/

namespace CardCrc

universe u v

/-- Two families that agree on either side, in whatever sense, still agree once
both have been updated on one side with members that do. -/
theorem Side.related_update {α : Type u} {β : Type v} (related : α → β → Prop)
    {family : Side → α} {other : Side → β} (agree : ∀ side, related (family side) (other side))
    (side : Side) {member : α} {otherMember : β} (same : related member otherMember)
    (asked : Side) :
    related (Function.update family side member asked)
      (Function.update other side otherMember asked) := by
  by_cases here : asked = side
  · subst here
    rw [Function.update_self, Function.update_self]
    exact same
  · rw [Function.update_of_ne here, Function.update_of_ne here]
    exact agree asked

/-- What a watched message leaves in a recorder, depending on who watched it. -/
def Watcher.recorded (run : Run) (recorder : Recorder) : Watcher → Recorder
  | .recorder => recorder.record run
  | .session => recorder.record run
  | .nobody => recorder

namespace Session

/-- Setting a register sets that one only. -/
theorem register_setRegister (session : Session) (side : Side) (register : Register) :
    (session.setRegister side register).register =
      Function.update session.register side register := by
  funext asked
  cases side <;> cases asked <;> rfl

/-- A watched message feeds its register, and its run is recorded unless nobody
watches. -/
theorem watch_eq (session : Session) (side : Side) (message : List UInt8) (watcher : Watcher) :
    session.watch side message watcher =
      { session with recorder :=
        watcher.recorded { start := session.register side, message } session.recorder
      }.setRegister side ((session.register side).append message) := by
  cases watcher with
  | recorder => rw [watch, Observer.watch_eq, Watcher.recorded, Recorder.record, Observer.watch_eq]
  | session => rw [watch, observer_watch, Watcher.recorded, Recorder.record]
  | nobody => rw [watch, Observer.watch_eq, Observer.foldl_ignoring, Watcher.recorded]

/-- The effect of an action on the registers. A single byte is a message of one
byte, and who watches a message makes no difference. -/
theorem register_act (session : Session) (action : Action) :
    (session.act action).register = match action with
      | .reset side => Function.update session.register side Register.empty
      | .append side message =>
        Function.update session.register side ((session.register side).append message)
      | .push side byte =>
        Function.update session.register side ((session.register side).append [byte])
      | .watch side message _ =>
        Function.update session.register side ((session.register side).append message)
      | .copy side => Function.update session.register side (session.register side.other)
      | .recordBit _ => session.register
      | .recordByteEnd _ _ => session.register
      | .clear => session.register := by
  cases action with
  | reset side => exact session.register_setRegister side _
  | append side message => exact session.register_setRegister side _
  | push side byte => exact session.register_setRegister side _
  | watch side message watcher =>
    rw [act, watch_eq, register_setRegister]
    rfl
  | copy side => exact session.register_setRegister side _
  | recordBit step => rfl
  | recordByteEnd byteIndex register => rfl
  | clear => rfl

/-- The effect of an action on the recorder. -/
theorem recorder_act (session : Session) (action : Action) :
    (session.act action).recorder = match action with
      | .watch side message watcher =>
        watcher.recorded { start := session.register side, message } session.recorder
      | .recordBit step => session.recorder.recordBit step
      | .recordByteEnd _ register => session.recorder.recordByteEnd register
      | .clear => Recorder.empty
      | _ => session.recorder := by
  cases action with
  | watch side message watcher => rw [act, watch_eq, recorder_setRegister]
  | reset side => exact session.recorder_setRegister side _
  | append side message => exact session.recorder_setRegister side _
  | push side byte => exact session.recorder_setRegister side _
  | copy side => exact session.recorder_setRegister side _
  | recordBit step => rfl
  | recordByteEnd byteIndex register => rfl
  | clear => rfl

end Session

end CardCrc
