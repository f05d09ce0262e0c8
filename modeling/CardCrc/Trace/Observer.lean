import CardCrc.Trace.Step

/-!
# Watching a message go in

An observer sees every step of the register and the end of every byte, and keeps
a state of its own. It is shown the register but cannot change it. Byte indices
count from the start of the message being watched, not from the start of
whatever the register had been fed before.
-/

namespace CardCrc

universe u v

/-- Receives the steps of a register, keeping a state of type `σ`. -/
structure Observer (σ : Type u) where
  /-- What a step does to the state. -/
  onBit : σ → Step → σ
  /-- What the end of a byte does to the state: nothing, unless said otherwise. -/
  onByteEnd : σ → (byteIndex : Nat) → Register → σ := fun state _ _ => state

namespace Observer

variable {σ : Type u} {τ : Type v}

/-- Takes no notice of anything. -/
def ignoring : Observer σ where
  onBit state _ := state

/-- Passes everything on to an observer whose state is a part of a larger one. -/
def forwarded (observer : Observer σ) (part : τ → σ) (replace : τ → σ → τ) : Observer τ where
  onBit state step := replace state (observer.onBit (part state) step)
  onByteEnd state byteIndex register :=
    replace state (observer.onByteEnd (part state) byteIndex register)

/-- Feed one bit of a byte and show the step. -/
def watchBit (observer : Observer σ) (byteIndex : Nat) (byte : UInt8) (run : Register × σ)
    (position : Nat) : Register × σ :=
  let step := Step.ofBit run.1 byteIndex byte position
  (step.register, observer.onBit run.2 step)

/-- Feed one byte, showing its eight steps and then its end. -/
def watchByte (observer : Observer σ) (byteIndex : Nat) (byte : UInt8) (run : Register × σ) :
    Register × σ :=
  let (register, state) := (List.range 8).foldl (observer.watchBit byteIndex byte) run
  (register, observer.onByteEnd state byteIndex register)

/-- Feed the bytes of a message from the one at `byteIndex` on. -/
def watchFrom (observer : Observer σ) (byteIndex : Nat) :
    List UInt8 → Register × σ → Register × σ
  | [], run => run
  | byte :: rest, run =>
    observer.watchFrom (byteIndex + 1) rest (observer.watchByte byteIndex byte run)

/-- Feed a message to a register, showing everything to the observer. The result
is the register left behind and the observer's last state. -/
def watch (observer : Observer σ) (register : Register) (message : List UInt8) (state : σ) :
    Register × σ :=
  observer.watchFrom 0 message (register, state)

end Observer

end CardCrc
