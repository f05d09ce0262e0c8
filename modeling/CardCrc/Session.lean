import CardCrc.Trace.Recorder

/-!
# Sessions

A session holds two registers that are fed independently and one recorder that
may watch either of them. An action changes one register, or the recorder, or
both when a message is fed to a register while the recorder watches.
-/

namespace CardCrc

/-- One of the two registers of a session. -/
inductive Side
  | left
  | right
deriving DecidableEq

/-- The other register. -/
def Side.other : Side → Side
  | left => right
  | right => left

/-- Who watches a message going in. -/
inductive Watcher
  /-- The recorder watches. -/
  | recorder
  /-- The session watches and passes everything on to its recorder. -/
  | session
  /-- Nobody watches. -/
  | nobody
deriving DecidableEq

/-- Two registers and a recorder. -/
structure Session where
  /-- The first register. -/
  left : Register := Register.empty
  /-- The second register. -/
  right : Register := Register.empty
  /-- The recorder that both share. -/
  recorder : Recorder := Recorder.empty
deriving DecidableEq

/-- What can be done in a session. -/
inductive Action
  /-- Empty a register. -/
  | reset (side : Side)
  /-- Feed a message to a register. -/
  | append (side : Side) (message : List UInt8)
  /-- Feed one byte to a register. -/
  | push (side : Side) (byte : UInt8)
  /-- Feed a message to a register while somebody watches. -/
  | watch (side : Side) (message : List UInt8) (watcher : Watcher)
  /-- Make a register the same as the other one. -/
  | copy (side : Side)
  /-- Show the recorder a step. -/
  | recordBit (step : Step)
  /-- Show the recorder the end of a byte. -/
  | recordByteEnd (byteIndex : Nat) (register : Register)
  /-- Forget everything recorded. -/
  | clear
deriving DecidableEq

namespace Session

/-- A new session: both registers are empty and nothing is recorded. -/
def start : Session := {}

/-- One of the registers. -/
def register (session : Session) : Side → Register
  | .left => session.left
  | .right => session.right

/-- The session with another register on one side. -/
def setRegister (session : Session) (side : Side) (register : Register) : Session :=
  match side with
  | .left => { session with left := register }
  | .right => { session with right := register }

/-- The session as an observer that passes everything on to its recorder. -/
def observer : Observer Session :=
  Recorder.observer.forwarded Session.recorder fun session recorder => { session with recorder }

/-- Feed a message to a register while somebody watches. -/
def watch (session : Session) (side : Side) (message : List UInt8) : Watcher → Session
  | .recorder =>
    let (register, recorder) :=
      Recorder.observer.watch (session.register side) message session.recorder
    { session with recorder }.setRegister side register
  | .session =>
    let (register, session) := observer.watch (session.register side) message session
    session.setRegister side register
  | .nobody =>
    let (register, session) := Observer.ignoring.watch (session.register side) message session
    session.setRegister side register

/-- What an action does to a session. -/
def act (session : Session) : Action → Session
  | .reset side => session.setRegister side Register.empty
  | .append side message => session.setRegister side ((session.register side).append message)
  | .push side byte => session.setRegister side ((session.register side).push byte)
  | .watch side message watcher => session.watch side message watcher
  | .copy side => session.setRegister side (session.register side.other)
  | .recordBit step => { session with recorder := Recorder.observer.onBit session.recorder step }
  | .recordByteEnd byteIndex register =>
    { session with
      recorder := Recorder.observer.onByteEnd session.recorder byteIndex register }
  | .clear => { session with recorder := Recorder.empty }

/-- What a sequence of actions does to a session. -/
def run (session : Session) (actions : List Action) : Session := actions.foldl act session

end Session

end CardCrc
