import CardCrc.Proofs.Trace.Passage
import CardCrc.Session

/-!
# What an observer is shown

Watching a message shows an observer nine events for each byte: a step for each
bit and then the end of the byte. The events depend on the register and the
message alone. Whatever an observer does with one event, it is shown the next,
so its last state is what it makes of all of them in order.

A recorder keeps exactly these events, the steps and the ends of bytes apart. It
makes no difference whether it watches itself or is a part of something larger
that passes everything on to it.
-/

namespace CardCrc

universe u v

/-- One thing that an observer is shown. -/
inductive Event
  /-- A bit has entered. -/
  | bit (step : Step)
  /-- The last bit of a byte has entered. -/
  | byteEnd (byteIndex : Nat) (register : Register)
deriving DecidableEq

namespace Event

/-- The register that an event shows. -/
def register : Event → Register
  | bit step => step.register
  | byteEnd _ register => register

/-- The step that an event shows, if it shows one. -/
def step? : Event → Option Step
  | bit step => some step
  | byteEnd .. => none

/-- The register at the end of a byte, if an event shows one. -/
def ending? : Event → Option Register
  | bit _ => none
  | byteEnd _ register => some register

end Event

/-- The nine events of one byte. -/
def Passage.events (passage : Passage) : List Event :=
  passage.steps.map .bit ++ [.byteEnd passage.byteIndex passage.finish]

namespace Register

/-- The bytes of a message on their way into a register, the first of them at
`byteIndex`. -/
def passagesFrom (register : Register) (byteIndex : Nat) : List UInt8 → List Passage
  | [] => []
  | byte :: rest =>
    { start := register, byteIndex, byte } ::
      (register.push byte).passagesFrom (byteIndex + 1) rest

/-- The bytes of a whole message on their way into a register. -/
def passages (register : Register) (message : List UInt8) : List Passage :=
  register.passagesFrom 0 message

/-- All events of a message, in order. -/
def shown (register : Register) (message : List UInt8) : List Event :=
  (register.passages message).flatMap Passage.events

/-- A byte meets the register that the bytes before it have left. -/
theorem getElem?_passagesFrom (register : Register) (byteIndex : Nat) (message : List UInt8)
    (index : Nat) :
    (register.passagesFrom byteIndex message)[index]? = message[index]?.map fun byte =>
      { start := register.append (message.take index), byteIndex := byteIndex + index, byte } := by
  induction message generalizing register byteIndex index with
  | nil => rfl
  | cons byte rest inductionHypothesis =>
    cases index with
    | zero => rfl
    | succ index =>
      have later := inductionHypothesis (register.push byte) (byteIndex + 1) index
      rw [show byteIndex + 1 + index = byteIndex + (index + 1) by omega] at later
      simp only [passagesFrom, List.getElem?_cons_succ, List.take_succ_cons, append_cons]
      exact later

/-- Every byte passes once. -/
theorem length_passagesFrom (register : Register) (byteIndex : Nat) (message : List UInt8) :
    (register.passagesFrom byteIndex message).length = message.length := by
  induction message generalizing register byteIndex with
  | nil => rfl
  | cons byte rest inductionHypothesis =>
    exact congrArg Nat.succ (inductionHypothesis (register.push byte) (byteIndex + 1))

/-- A message has as many passages as bytes. -/
theorem length_passages (register : Register) (message : List UInt8) :
    (register.passages message).length = message.length :=
  register.length_passagesFrom 0 message

end Register

/-! ## Any observer -/

namespace Observer

variable {σ : Type u} {τ : Type v}

/-- What an observer does with an event. -/
def receive (observer : Observer σ) (state : σ) : Event → σ
  | .bit step => observer.onBit state step
  | .byteEnd byteIndex register => observer.onByteEnd state byteIndex register

/-- Watching the first bits of a byte shows their steps. -/
theorem watchBits_eq (observer : Observer σ) (passage : Passage) (state : σ) (count : Nat)
    (inside : count ≤ 8) :
    (List.range count).foldl (observer.watchBit passage.byteIndex passage.byte)
        (passage.start, state) =
      (passage.after count, ((List.range count).map passage.step).foldl observer.onBit state) := by
  induction count with
  | zero => rfl
  | succ count inductionHypothesis =>
    have next : passage.after (count + 1) = (passage.step count).register :=
      passage.after_succ count inside
    rw [List.range_succ, List.foldl_append, inductionHypothesis (Nat.le_of_succ_le inside),
      List.map_append, List.foldl_append, next]
    rfl

/-- Watching a byte shows its nine events. -/
theorem watchByte_eq (observer : Observer σ) (passage : Passage) (state : σ) :
    observer.watchByte passage.byteIndex passage.byte (passage.start, state) =
      (passage.finish, passage.events.foldl observer.receive state) := by
  rw [watchByte, watchBits_eq observer passage state 8 (Nat.le_refl 8), passage.after_eight,
    Passage.events, List.foldl_append, List.foldl_map]
  rfl

/-- Watching bytes shows the events of all of them, one byte after another. -/
theorem watchFrom_eq (observer : Observer σ) (register : Register) (byteIndex : Nat)
    (message : List UInt8) (state : σ) :
    observer.watchFrom byteIndex message (register, state) =
      (register.append message,
        ((register.passagesFrom byteIndex message).flatMap Passage.events).foldl
          observer.receive state) := by
  induction message generalizing register byteIndex state with
  | nil => rfl
  | cons byte rest inductionHypothesis =>
    have first := observer.watchByte_eq { start := register, byteIndex, byte } state
    have later := inductionHypothesis (register.push byte) (byteIndex + 1)
    rw [watchFrom, first, Passage.finish, later, Register.passagesFrom, List.flatMap_cons,
      List.foldl_append, Register.append_cons]

/-- Watching a message leaves what feeding it leaves, and the observer with what
it makes of the events shown. -/
theorem watch_eq (observer : Observer σ) (register : Register) (message : List UInt8)
    (state : σ) :
    observer.watch register message state =
      (register.append message, (register.shown message).foldl observer.receive state) :=
  observer.watchFrom_eq register 0 message state

/-- An observer that takes no notice of anything stays as it is. -/
theorem foldl_ignoring (events : List Event) (state : σ) :
    events.foldl ignoring.receive state = state := by
  induction events with
  | nil => rfl
  | cons event rest inductionHypothesis =>
    have unnoticed : ignoring.receive state event = state := by
      cases event <;> rfl
    rw [List.foldl_cons, unnoticed, inductionHypothesis]

/-- An observer that passes everything on to a part of itself changes that part
as it would change by itself, and nothing else. -/
theorem foldl_forwarded (observer : Observer σ) (part : τ → σ) (replace : τ → σ → τ)
    (found : ∀ whole state, part (replace whole state) = state)
    (replaced : ∀ whole state next, replace (replace whole state) next = replace whole next)
    (unchanged : ∀ whole, replace whole (part whole) = whole)
    (events : List Event) (whole : τ) :
    events.foldl (observer.forwarded part replace).receive whole =
      replace whole (events.foldl observer.receive (part whole)) := by
  induction events generalizing whole with
  | nil => exact (unchanged whole).symm
  | cons event rest inductionHypothesis =>
    have first : (observer.forwarded part replace).receive whole event =
        replace whole (observer.receive (part whole) event) := by
      cases event <;> rfl
    rw [List.foldl_cons, first, inductionHypothesis, found, replaced, List.foldl_cons]

end Observer

/-! ## The recorder -/

namespace Recorder

/-- A recorder keeps the steps among the events it is shown, and the ends of
bytes, both in order. -/
theorem foldl_receive (recorder : Recorder) (events : List Event) :
    (events.foldl observer.receive recorder).steps.toList =
        recorder.steps.toList ++ events.filterMap Event.step? ∧
      (events.foldl observer.receive recorder).byteEnds.toList =
        recorder.byteEnds.toList ++ events.filterMap Event.ending? := by
  induction events generalizing recorder with
  | nil => simp
  | cons event rest inductionHypothesis =>
    obtain ⟨steps, endings⟩ := inductionHypothesis (observer.receive recorder event)
    rw [List.foldl_cons, steps, endings]
    cases event with
    | bit step =>
      simp [Observer.receive, observer, recordBit, List.filterMap_cons, Event.step?, Event.ending?]
    | byteEnd byteIndex register =>
      simp [Observer.receive, observer, recordByteEnd, List.filterMap_cons, Event.step?,
        Event.ending?]

end Recorder

namespace Session

/-- A session that passes everything on changes nothing but its recorder, and
that as the recorder would change by itself. -/
theorem observer_watch (session : Session) (register : Register) (message : List UInt8) :
    observer.watch register message session =
      (register.append message,
        { session with recorder :=
          (Recorder.observer.watch register message session.recorder).2 }) := by
  have passedOn := Recorder.observer.foldl_forwarded Session.recorder
    (fun session recorder => { session with recorder })
    (fun _ _ => rfl) (fun _ _ _ => rfl) (fun _ => rfl) (register.shown message) session
  rw [Observer.watch_eq, Observer.watch_eq, ← passedOn]
  rfl

/-- Changing a register leaves the recorder as it is. -/
@[simp] theorem recorder_setRegister (session : Session) (side : Side) (register : Register) :
    (session.setRegister side register).recorder = session.recorder := by
  cases side <;> rfl

/-- What the recorder of a session keeps is the same whether it watches itself
or the session does and passes everything on to it. -/
theorem recorder_watch (session : Session) (side : Side) (message : List UInt8) :
    (session.watch side message .recorder).recorder =
        (Recorder.observer.watch (session.register side) message session.recorder).2 ∧
      (session.watch side message .session).recorder =
        (Recorder.observer.watch (session.register side) message session.recorder).2 := by
  constructor
  · rw [watch, recorder_setRegister]
  · rw [watch, recorder_setRegister, observer_watch]

end Session

/-! ## Place by place -/

namespace Passage

/-- A byte has eight steps and an end. -/
@[simp] theorem length_events (passage : Passage) : passage.events.length = 9 := by
  simp [events]

/-- The steps come first. -/
theorem getElem?_events_step (passage : Passage) (position : Nat) (inside : position < 8) :
    passage.events[position]? = some (.bit (passage.step position)) := by
  rw [events, List.getElem?_append_left (by simpa using inside), List.getElem?_map,
    passage.getElem?_steps position inside]
  rfl

/-- The end comes last. -/
theorem getElem?_events_end (passage : Passage) :
    passage.events[8]? = some (.byteEnd passage.byteIndex passage.finish) := rfl

/-- The steps among the events. -/
theorem filterMap_step_events (passage : Passage) :
    passage.events.filterMap Event.step? = passage.steps := by
  have each : Event.step? ∘ Event.bit = some := rfl
  simp [events, List.filterMap_map, each, Event.step?]

/-- The one end of a byte among the events. -/
theorem filterMap_ending_events (passage : Passage) :
    passage.events.filterMap Event.ending? = [passage.finish] := by
  have each : Event.ending? ∘ Event.bit = fun _ => none := rfl
  simp [events, List.filterMap_map, each, Event.ending?]

end Passage

namespace Register

/-- The steps shown are those of the bytes in order. -/
theorem filterMap_step_shown (register : Register) (message : List UInt8) :
    (register.shown message).filterMap Event.step? =
      (register.passages message).flatMap Passage.steps := by
  simp only [shown, List.filterMap_flatMap, Passage.filterMap_step_events]

/-- The ends shown are those of the bytes in order. -/
theorem filterMap_ending_shown (register : Register) (message : List UInt8) :
    (register.shown message).filterMap Event.ending? =
      (register.passages message).map Passage.finish := by
  simp only [shown, List.filterMap_flatMap, Passage.filterMap_ending_events, List.map_eq_flatMap]

/-- Eight steps are shown for each byte. -/
theorem length_filterMap_step_shown (register : Register) (message : List UInt8) :
    ((register.shown message).filterMap Event.step?).length = 8 * message.length := by
  rw [filterMap_step_shown, length_flatMap_uniform Passage.steps 8 Passage.length_steps,
    length_passages]

/-- One end is shown for each byte. -/
theorem length_filterMap_ending_shown (register : Register) (message : List UInt8) :
    ((register.shown message).filterMap Event.ending?).length = message.length := by
  rw [filterMap_ending_shown, List.length_map, length_passages]

/-- Nine events are shown for each byte. -/
theorem length_shown (register : Register) (message : List UInt8) :
    (register.shown message).length = 9 * message.length := by
  rw [shown, length_flatMap_uniform Passage.events 9 Passage.length_events, length_passages]

/-- The events of a byte are found by its index. -/
theorem getElem?_shown (register : Register) (message : List UInt8) (index place : Nat)
    (byte : UInt8) (present : message[index]? = some byte) (inside : place < 9) :
    (register.shown message)[9 * index + place]? =
      (Passage.mk (register.append (message.take index)) index byte).events[place]? := by
  rw [shown, getElem?_flatMap Passage.events 9 Passage.length_events _ index place inside,
    passages, getElem?_passagesFrom, present, Nat.zero_add]
  rfl

/-- The register after a byte is what the table gives for the message up to it. -/
theorem finish_eq_append (register : Register) (message : List UInt8) (index : Nat)
    (byte : UInt8) (present : message[index]? = some byte) :
    (Passage.mk (register.append (message.take index)) index byte).finish =
      register.append (message.take (index + 1)) := by
  rw [List.take_add_one, present, append_append]
  rfl

/-- The register shown last before a step is the one that the step meets. For
the first step of a byte it was shown by the end of the byte before, and for the
very first nothing has been shown. -/
theorem shown_before (register : Register) (message : List UInt8) (index position : Nat)
    (byte : UInt8) (present : message[index]? = some byte) (inside : position < 8) :
    (register :: (register.shown message).map Event.register)[9 * index + position]? =
      some ((Passage.mk (register.append (message.take index)) index byte).after position) := by
  cases position with
  | zero =>
    cases index with
    | zero => rfl
    | succ index =>
      have within : index < message.length := by
        have bound := (List.getElem?_eq_some_iff.mp present).1
        omega
      have earlier := List.getElem?_eq_getElem within
      have ended := getElem?_shown register message index 8 _ earlier (by decide)
      rw [Passage.getElem?_events_end, finish_eq_append register message index _ earlier] at ended
      rw [show 9 * (index + 1) + 0 = (9 * index + 8) + 1 by omega, List.getElem?_cons_succ,
        List.getElem?_map, ended]
      rfl
  | succ position =>
    have earlier : position < 8 := by omega
    have stepped := getElem?_shown register message index position byte present (by omega)
    rw [Passage.getElem?_events_step _ position earlier] at stepped
    rw [← Nat.add_assoc, List.getElem?_cons_succ, List.getElem?_map, stepped, Option.map_some,
      Event.register, Passage.step_register _ position earlier]

/-- Watching shows every observer the same events and nothing else: for each byte
of the message, counted from zero, a step for each bit and then the end of the
byte. A step describes its bit against the register shown just before it, the
first one against the register that the message goes into. The end of a byte
shows what the table gives for the message up to that byte.

A recorder adds eight steps and one end for each byte to what it holds. In a
session it adds the same whether it watches itself or is passed the events. -/
theorem shown_exactly (register : Register) (message : List UInt8) :
    (∀ {σ : Type u} (observer : Observer σ) (state : σ),
      (observer.watch register message state).2 =
        (register.shown message).foldl observer.receive state) ∧
    (register.shown message).length = 9 * message.length ∧
    (∀ index byte, message[index]? = some byte →
      (∀ position < 8, ∃ before step,
        (register :: (register.shown message).map Event.register)[9 * index + position]? =
          some before ∧
        (register.shown message)[9 * index + position]? = some (.bit step) ∧
        step.Describes before index byte position) ∧
      (register.shown message)[9 * index + 8]? =
        some (.byteEnd index (register.append (message.take (index + 1))))) ∧
    ∀ recorder : Recorder,
      let recorded := (Recorder.observer.watch register message recorder).2
      recorded.steps.toList =
        recorder.steps.toList ++ (register.shown message).filterMap Event.step? ∧
      recorded.byteEnds.toList =
        recorder.byteEnds.toList ++ (register.shown message).filterMap Event.ending? ∧
      recorded.steps.size = recorder.steps.size + 8 * message.length ∧
      recorded.byteEnds.size = recorder.byteEnds.size + message.length ∧
      ∀ (session : Session) (side : Side),
        session.register side = register → session.recorder = recorder →
        (session.watch side message .recorder).recorder = recorded ∧
        (session.watch side message .session).recorder = recorded := by
  have folded {σ : Type u} (observer : Observer σ) (state : σ) :
      (observer.watch register message state).2 =
        (register.shown message).foldl observer.receive state := by
    rw [observer.watch_eq]
  refine ⟨folded, length_shown register message, ?_, ?_⟩
  · intro index byte present
    constructor
    · intro position inside
      let passage := Passage.mk (register.append (message.take index)) index byte
      refine ⟨passage.after position, passage.step position,
        shown_before register message index position byte present inside, ?_,
        Step.ofBit_describes _ index byte position inside⟩
      rw [getElem?_shown register message index position byte present (by omega),
        Passage.getElem?_events_step _ position inside]
    · rw [getElem?_shown register message index 8 byte present (by decide),
        Passage.getElem?_events_end, finish_eq_append register message index byte present]
  · intro recorder recorded
    have kept : recorded = (register.shown message).foldl Recorder.observer.receive recorder := by
      simp only [recorded, Observer.watch_eq]
    obtain ⟨steps, endings⟩ := recorder.foldl_receive (register.shown message)
    rw [← kept] at steps endings
    refine ⟨steps, endings, ?_, ?_, ?_⟩
    · rw [← Array.length_toList, steps, List.length_append, Array.length_toList,
        length_filterMap_step_shown]
    · rw [← Array.length_toList, endings, List.length_append, Array.length_toList,
        length_filterMap_ending_shown]
    · rintro session side rfl rfl
      exact session.recorder_watch side message

/-- Two bytes go into a register that has only its top bit set. The third step of
the second byte meets 171 and leaves 95, the second byte ends with 28, and a
session that passes the events on gets sixteen steps. -/
theorem shown_exactly_two_bytes :
    (∃ step, (shown 0x80 [0x48, 0xAA])[11]? = some (.bit step) ∧ step.Describes 171 1 0xAA 2 ∧
      step.register = 95) ∧
    (shown 0x80 [0x48, 0xAA])[17]? = some (.byteEnd 1 28) ∧
    (({ right := 0x80 } : Session).watch .right [0x48, 0xAA] .session).recorder.steps.size =
      16 := by
  obtain ⟨-, -, places, recordings⟩ := shown_exactly.{0} 0x80 [0x48, 0xAA]
  obtain ⟨bits, ended⟩ := places 1 0xAA rfl
  obtain ⟨before, step, met, seen, describes⟩ := bits 2 (by decide)
  obtain ⟨-, -, sizes, -, watched⟩ := recordings Recorder.empty
  have passedOn := (watched { right := 0x80 } .right rfl rfl).2
  have metHere : before = 171 := Option.some.inj (met.symm.trans (by decide +kernel))
  have leaves : (shown 0x80 [0x48, 0xAA])[11]?.map Event.register = some 95 := by decide +kernel
  have left : append 0x80 [0x48, 0xAA] = 28 := by decide +kernel
  refine ⟨⟨step, seen, metHere ▸ describes, ?_⟩, ?_, ?_⟩
  · rw [seen] at leaves
    exact Option.some.inj leaves
  · rw [← left]
    exact ended
  · rw [passedOn, sizes]
    rfl

end Register

end CardCrc
