import TapeMachine.Proofs.Machine.Step

/-!
# Steps and streams

Only one instruction reads, and only one writes. All that a step takes notice of in the input and the
output is what the one meets next and whether the other takes a byte. So a machine does the same step
among other streams that are alike in this, and whatever its count of steps is.

Results:
1. `step_withStreams`: a step among other streams.
2. `streams_step`: what a step leaves of the streams.
-/

namespace TapeMachine

/-- The input after a step on an instruction. -/
def Input.after (i : Instruction) (input : Input) : Input :=
  match i with
  | .input => input.advance
  | _ => input

/-- The output after a step on an instruction, with a byte in the cell. -/
def Output.after (i : Instruction) (cell : UInt8) (output : Output) : Output :=
  match i with
  | .output =>
    match output.refusal? 1 with
    | some _ => output
    | none => (output.append [cell]).flush
  | _ => output

theorem Output.after_of_room {output : Output} (room : output.refusal? 1 = none) (cell : UInt8) :
    output.after .output cell = (output.append [cell]).flush := by
  simp only [after, room]

namespace Machine

/-- The machine with another count of steps and among other streams. -/
def withStreams (m : Machine) (steps : Nat) (input : Input) (output : Output) : Machine :=
  { m with steps := steps, input := input, output := output }

/-- Some streams are to an instruction what those of the machine are. -/
structure Alike (m : Machine) (i : Instruction) (input : Input) (output : Output) : Prop where
  peek : i = .input → input.peek = m.input.peek
  refusal? : i = .output → output.refusal? 1 = m.output.refusal? 1

end Machine

/-- The outcome with another count of steps and among other streams. -/
def Outcome.withStreams (o : Outcome) (steps : Nat) (input : Input) (output : Output) : Outcome :=
  ⟨o.machine.withStreams steps input output, o.failure?⟩

namespace Machine

variable {p : Program} {m : Machine} {i : Instruction}

theorem next_withStreams (o : Outcome) (steps : Nat) (input : Input) (output : Output) :
    (o.withStreams steps input output).next = o.next.withStreams steps input output := by
  obtain ⟨m, failure?⟩ := o
  cases failure? <;> rfl

theorem moveDataCursor_withStreams (m : Machine) (offset : Int) (steps : Nat) (input : Input)
    (output : Output) : (m.withStreams steps input output).moveDataCursor offset =
      (m.moveDataCursor offset).withStreams steps input output := by
  have same : (m.withStreams steps input output).dataCursor = m.dataCursor := rfl
  simp only [moveDataCursor, same]
  split
  · rfl
  · split <;> rfl

theorem readCell_withStreams {input : Input} (peek : input.peek = m.input.peek) (steps : Nat)
    (output : Output) : (m.withStreams steps input output).readCell =
      m.readCell.withStreams steps input.advance output := by
  have same : (m.withStreams steps input output).input.peek = m.input.peek := peek
  simp only [readCell, same]
  cases m.input.peek <;> rfl

theorem writeCell_withStreams {output : Output}
    (refusal? : output.refusal? 1 = m.output.refusal? 1) (steps : Nat) (input : Input) :
    (m.withStreams steps input output).writeCell =
      m.writeCell.withStreams steps input (output.after .output m.cell) := by
  have same : (m.withStreams steps input output).output.refusal? 1 = m.output.refusal? 1 := refusal?
  simp only [writeCell, same, Output.after, refusal?]
  cases m.output.refusal? 1 <;> rfl

theorem act_withStreams {input : Input} {output : Output} (alike : m.Alike i input output)
    (steps : Nat) : (m.withStreams steps input output).act i =
      (m.act i).withStreams steps (input.after i) (output.after i m.cell) := by
  cases i with
  | moveRight => exact moveDataCursor_withStreams m 1 steps input output
  | moveLeft => exact moveDataCursor_withStreams m (-1) steps input output
  | output => exact writeCell_withStreams (alike.refusal? rfl) steps input
  | input => exact readCell_withStreams (alike.peek rfl) steps output
  | _ => rfl

theorem step_withStreams {input : Input} {output : Output}
    (fetched : p.fetch? m.instCursor = some i) (alike : m.Alike i input output) (steps : Nat) :
    (m.withStreams steps input output).step p =
      (m.step p).withStreams (steps + 1) (input.after i) (output.after i m.cell) := by
  have same : p.fetch? (m.withStreams steps input output).instCursor = some i := fetched
  have sameJump : (m.withStreams steps input output).jumpStride? i = m.jumpStride? i := rfl
  have ticks : (m.withStreams steps input output).tick =
      m.tick.withStreams (steps + 1) input output := rfl
  cases jumps : m.jumpStride? i with
  | none =>
    have alikeTicked : m.tick.Alike i input output := ⟨alike.peek, alike.refusal?⟩
    rw [step_of_act same (sameJump.trans jumps), step_of_act fetched jumps, ticks,
      act_withStreams alikeTicked, next_withStreams]
    rfl
  | some stride =>
    have ticked : p.fetch? m.tick.instCursor = some i := fetched
    have tickedSame : p.fetch? (m.tick.withStreams (steps + 1) input output).instCursor = some i :=
      fetched
    have partners : p.partner? i (m.tick.withStreams (steps + 1) input output).instCursor stride =
        p.partner? i m.tick.instCursor stride := rfl
    rw [step_of_jump same (sameJump.trans jumps), step_of_jump fetched jumps, ticks,
      jump_of_fetch? tickedSame, jump_of_fetch? ticked, partners]
    -- Only brackets jump, and they leave the streams alone.
    rcases jumpStride?_eq_some jumps with ⟨rfl, _⟩ | ⟨rfl, _⟩ <;>
      cases p.partner? _ m.tick.instCursor stride <;> rfl

theorem streams_step (fetched : p.fetch? m.instCursor = some i) :
    (m.step p).machine.input = m.input.after i ∧
      (m.step p).machine.output = m.output.after i m.cell := by
  have alike : m.Alike i m.input m.output := ⟨fun _ => rfl, fun _ => rfl⟩
  have same := step_withStreams fetched alike m.steps
  exact ⟨congrArg (·.machine.input) same, congrArg (·.machine.output) same⟩

end Machine

end TapeMachine
