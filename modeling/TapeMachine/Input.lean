import TapeMachine.SystemError

/-!
# Input

The input is a list of events, one for each attempt to read a byte. After the last event every
attempt finds the end of the input. An event that fails is used up like any other.

Results:
1. `pending_advance`, `reads_advance`: an attempt uses up one event, if there is one, and is
   counted.
-/

namespace TapeMachine

/-- What an attempt to read a byte meets. -/
inductive InputEvent
  /-- A byte. -/
  | byte (value : UInt8)
  /-- No byte is available now. -/
  | noData
  /-- The input has ended. -/
  | endOfInput
  /-- The system cannot read. -/
  | systemError (error : SystemError)
  /-- The stream refuses to be read. -/
  | refusal (message : Text)
deriving DecidableEq, Repr

/-- An input: the events to come and how often a byte has been asked for. -/
structure Input where
  pending : List InputEvent
  reads : Nat
deriving DecidableEq, Repr

namespace Input

/-- An input before the first attempt. -/
def ofEvents (events : List InputEvent) : Input :=
  ⟨events, 0⟩

/-- An input of some bytes. -/
def ofBytes (bytes : List UInt8) : Input :=
  ofEvents (bytes.map .byte)

/-- What the next attempt meets. -/
def peek (i : Input) : InputEvent :=
  i.pending.headD .endOfInput

/-- The input after the next attempt. -/
def advance (i : Input) : Input :=
  ⟨i.pending.tail, i.reads + 1⟩

@[simp] theorem reads_advance (i : Input) : i.advance.reads = i.reads + 1 := rfl

@[simp] theorem pending_advance (i : Input) : i.advance.pending = i.pending.drop 1 := by
  simp [advance]

end Input

end TapeMachine
