import TapeMachine.Fault
import TapeMachine.Input
import TapeMachine.Number.Numeral
import TapeMachine.Output
import TapeMachine.Program.Match
import TapeMachine.Tape

/-!
# The machine

The machine has a tape, a cursor into the tape, a cursor into the program, a count of the steps
taken, an input and an output. Every operation is a function from one state to the next; one that
fails says why, and leaves the state as the failure found it.

Results:
1. `step_of_halted`: a machine that has halted stays as it is.
2. `steps_step`: any other step is counted, whether it succeeds or not.
-/

namespace TapeMachine

/-- The state of the machine. -/
structure Machine where
  tape : Tape
  dataCursor : Nat
  instCursor : Nat
  steps : Nat
  input : Input
  output : Output
deriving DecidableEq

/-- The state after an operation, and why it failed if it did. -/
structure Outcome where
  machine : Machine
  failure? : Option Failure
deriving DecidableEq

namespace Outcome

/-- Moves on to the next instruction after an operation that succeeded. -/
def next : Outcome → Outcome
  | ⟨m, none⟩ => ⟨{ m with instCursor := m.instCursor + 1 }, none⟩
  | failed => failed

end Outcome

namespace Machine

/-- The machine before its first step. -/
def fresh (input : Input) (output : Output) : Machine where
  tape := .blank
  dataCursor := 0
  instCursor := 0
  steps := 0
  input := input
  output := output

/-- The cell under the data cursor. -/
def cell (m : Machine) : UInt8 :=
  m.tape.get m.dataCursor

/-- The machine with another byte under the data cursor. -/
def setCell (m : Machine) (value : UInt8) : Machine :=
  { m with tape := m.tape.set m.dataCursor value }

/-- Whether the instruction cursor has run past the program. -/
def halted (p : Program) (m : Machine) : Bool :=
  p.size ≤ m.instCursor

/-! ## Operations -/

/-- Moves the data cursor, unless that takes it off the tape. The fault tells where to; a place so
far away that it cannot be written is refused instead. -/
def moveDataCursor (m : Machine) (offset : Int) : Outcome :=
  let cursor := m.dataCursor + offset
  if 0 ≤ cursor ∧ cursor < tapeSize then ⟨{ m with dataCursor := cursor.toNat }, none⟩
  else if Numeral.writable cursor then ⟨m, some (.fault (.offTape m.instCursor cursor))⟩
  else ⟨m, some (.refused Numeral.writeRefusal)⟩

/-- Uses up one event of the input. -/
def consume (m : Machine) : Machine :=
  { m with input := m.input.advance }

/-- Reads a byte into the cell under the data cursor. When there is none the cell is left alone. -/
def readCell (m : Machine) : Outcome :=
  match m.input.peek with
  | .byte value => ⟨m.consume.setCell value, none⟩
  | .noData => ⟨m.consume, none⟩
  | .endOfInput => ⟨m.consume, none⟩
  | .systemError error =>
    ⟨m.consume, some (.fault (.unreadableInput m.instCursor error))⟩
  | .refusal message => ⟨m.consume, some (.refused message)⟩

/-- Writes the cell under the data cursor and flushes the output. -/
def writeCell (m : Machine) : Outcome :=
  match m.output.refusal? 1 with
  | some error => ⟨m, some (.system error)⟩
  | none => ⟨{ m with output := (m.output.append [m.cell]).flush }, none⟩

/-- Searches for the partner of the instruction at a position. -/
def findMatch (p : Program) (origin : Nat) (stride : Int) : Except Failure Nat :=
  match p.fetch? origin with
  | none => .error .outOfRange
  | some opener =>
    match p.partner? opener origin stride with
    | some partner => .ok partner
    | none => .error (.fault (.unmatchedBracket opener origin))

/-- Moves the instruction cursor just behind the partner of the instruction under it. -/
def jump (p : Program) (m : Machine) (stride : Int) : Outcome :=
  match findMatch p m.instCursor stride with
  | .ok partner => ⟨{ m with instCursor := partner + 1 }, none⟩
  | .error failure => ⟨m, some failure⟩

/-! ## Steps -/

/-- The direction of the jump that an instruction takes now, if it takes one: forward from an
opening bracket when the cell is zero, backward from a closing one when it is not. -/
def jumpStride? (m : Machine) : Instruction → Option Int
  | .jumpForward => if m.cell = 0 then some 1 else none
  | .jumpBackward => if m.cell = 0 then none else some (-1)
  | _ => none

/-- What an instruction does besides moving the instruction cursor. -/
def act (m : Machine) : Instruction → Outcome
  | .moveRight => m.moveDataCursor 1
  | .moveLeft => m.moveDataCursor (-1)
  | .increment => ⟨m.setCell (m.cell + 1), none⟩
  | .decrement => ⟨m.setCell (m.cell - 1), none⟩
  | .output => m.writeCell
  | .input => m.readCell
  | .jumpForward => ⟨m, none⟩
  | .jumpBackward => ⟨m, none⟩

/-- Carries out an instruction. -/
def execute (p : Program) (m : Machine) (i : Instruction) : Outcome :=
  match m.jumpStride? i with
  | some stride => m.jump p stride
  | none => (m.act i).next

/-- The machine with one step more on its count. -/
def tick (m : Machine) : Machine :=
  { m with steps := m.steps + 1 }

/-- Carries out the instruction under the instruction cursor. A machine that has halted does
nothing. -/
def step (p : Program) (m : Machine) : Outcome :=
  match p.fetch? m.instCursor with
  | none => ⟨m, none⟩
  | some i => m.tick.execute p i

/-- Repeats an operation so many times, or as often as it succeeds and once more. -/
def iterate (operate : Machine → Outcome) : Nat → Machine → Outcome
  | 0, m => ⟨m, none⟩
  | count + 1, m =>
    match operate m with
    | ⟨m, none⟩ => iterate operate count m
    | failed => failed

/-! ## Runs -/

/-- Steps until the machine halts or fails. There is no answer if the fuel runs out first. -/
def run (p : Program) : Nat → Machine → Option Outcome
  | 0, _ => none
  | fuel + 1, m =>
    if m.halted p then some ⟨m, none⟩
    else
      match m.step p with
      | ⟨m, none⟩ => run p fuel m
      | failed => some failed

/-! ## What a step counts -/

theorem step_of_halted {p : Program} {m : Machine} (halted : m.halted p = true) :
    m.step p = ⟨m, none⟩ := by
  have none : p.fetch? m.instCursor = none :=
    Program.fetch?_eq_none_iff.mpr (by simpa [Machine.halted] using halted)
  simp [step, none]

@[simp] theorem steps_next (o : Outcome) : o.next.machine.steps = o.machine.steps := by
  obtain ⟨m, failure?⟩ := o
  cases failure? <;> rfl

@[simp] theorem steps_moveDataCursor (m : Machine) (offset : Int) :
    (m.moveDataCursor offset).machine.steps = m.steps := by
  simp only [moveDataCursor]
  split
  · rfl
  · split <;> rfl

@[simp] theorem steps_readCell (m : Machine) : m.readCell.machine.steps = m.steps := by
  unfold readCell
  split <;> rfl

@[simp] theorem steps_writeCell (m : Machine) : m.writeCell.machine.steps = m.steps := by
  unfold writeCell
  split <;> rfl

@[simp] theorem steps_jump (p : Program) (m : Machine) (stride : Int) :
    (m.jump p stride).machine.steps = m.steps := by
  unfold jump
  split <;> rfl

@[simp] theorem steps_act (m : Machine) (i : Instruction) : (m.act i).machine.steps = m.steps := by
  cases i <;> simp [act, setCell]

@[simp] theorem steps_execute (p : Program) (m : Machine) (i : Instruction) :
    (m.execute p i).machine.steps = m.steps := by
  unfold execute
  split <;> simp

theorem steps_step {p : Program} {m : Machine} (running : m.halted p = false) :
    (m.step p).machine.steps = m.steps + 1 := by
  unfold step
  split
  · next halted =>
    rw [Program.fetch?_eq_none_iff] at halted
    simp [Machine.halted, halted] at running
  · simp [tick]

end Machine

end TapeMachine
