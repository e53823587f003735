import TapeMachine.Proofs.Machine.Faults
import TapeMachine.Proofs.Machine.Record

/-!
# What steps can reach

A step changes no cell but the one under the data cursor, and that one only if its instruction
writes cells. The data cursor moves by at most one place. So the cells that some steps have changed
were all under the data cursor at one of them, and on a tape that was blank nothing lies farther out
than there were steps.

Results:
1. `get_tape_step`, `near_step`: what one step leaves of the tape and of the data cursor.
2. `get_tape_afterCalls`, `near_afterCalls`: what any number of calls leave of them.
3. `withinReach_step`: on a tape that was blank everything lies within the count of steps.
4. `le_steps_of_offTape`: so it takes many steps to get to the far end of the tape.
-/

namespace TapeMachine

/-- The instruction can change the cell under the data cursor. -/
def Instruction.writesCell : Instruction → Bool
  | .increment => true
  | .decrement => true
  | .input => true
  | _ => false

namespace Machine

variable {p : Program} {m : Machine} {place : Nat}

/-- The step of the machine carries out an instruction that writes cells, with the data cursor at a
place. -/
def Touches (p : Program) (m : Machine) (place : Nat) : Prop :=
  m.dataCursor = place ∧ ∃ i, p.fetch? m.instCursor = some i ∧ i.writesCell = true

/-- The machine after a number of calls of a step, each on what the one before it left, whether that
one failed or not. -/
def afterCalls (p : Program) : Nat → Machine → Machine
  | 0, m => m
  | count + 1, m => afterCalls p count (m.step p).machine

/-! ## One step -/

theorem get_tape_setCell (apart : place ≠ m.dataCursor) (value : UInt8) :
    (m.setCell value).tape.get place = m.tape.get place :=
  Tape.get_set_other m.tape apart value

theorem MoveCase.tape_eq {offset : Int} {o : Outcome} (moved : MoveCase m offset o) :
    o.machine.tape = m.tape := by
  cases moved <;> rfl

theorem tape_writeCell (m : Machine) : m.writeCell.machine.tape = m.tape := by
  unfold writeCell
  split <;> rfl

theorem get_tape_readCell (apart : place ≠ m.dataCursor) :
    m.readCell.machine.tape.get place = m.tape.get place := by
  unfold readCell
  split
  · exact get_tape_setCell (m := m.consume) apart _
  all_goals rfl

theorem tape_act {i : Instruction} (reads : i.writesCell = false) :
    (m.act i).machine.tape = m.tape := by
  cases i with
  | moveRight =>
    rw [act]
    exact (moveDataCursor_cases m 1).tape_eq
  | moveLeft =>
    rw [act]
    exact (moveDataCursor_cases m (-1)).tape_eq
  | output => exact tape_writeCell m
  | jumpForward => rfl
  | jumpBackward => rfl
  | _ => cases reads

theorem get_tape_act (apart : place ≠ m.dataCursor) (i : Instruction) :
    (m.act i).machine.tape.get place = m.tape.get place := by
  cases writes : i.writesCell with
  | false => rw [tape_act writes]
  | true =>
    cases i with
    | increment => exact get_tape_setCell apart _
    | decrement => exact get_tape_setCell apart _
    | input => exact get_tape_readCell apart
    | _ => cases writes

theorem get_tape_step (untouched : ¬m.Touches p place) :
    (m.step p).machine.tape.get place = m.tape.get place := by
  have acts : ∀ {i : Instruction} {o : Outcome}, p.fetch? m.instCursor = some i →
      m.tick.act i = o → o.machine.tape.get place = m.tape.get place := by
    rintro i _ fetched rfl
    cases writes : i.writesCell with
    | false => rw [tape_act writes, tick]
    | true =>
      have apart : place ≠ m.dataCursor := fun here => untouched ⟨here.symm, i, fetched, writes⟩
      exact get_tape_act (m := m.tick) apart i
  have taken := step_cases p m
  generalize m.step p = o at taken
  cases taken with
  | halted _ => rfl
  | jumped _ _ _ => rfl
  | unmatched _ _ _ => rfl
  | acted fetched _ acted =>
    have same := acts fetched acted
    exact same
  | failed fetched _ acted => exact acts fetched acted

/-- Two places are at most so far from each other. -/
def Near (distance place other : Nat) : Prop :=
  other ≤ place + distance ∧ place ≤ other + distance

theorem Near.refl (distance place : Nat) : Near distance place place :=
  ⟨Nat.le_add_right .., Nat.le_add_right ..⟩

theorem Near.trans {distance further other last : Nat} (first : Near distance place other)
    (second : Near further other last) : Near (further + distance) place last := by
  obtain ⟨ahead, behind⟩ := first
  obtain ⟨farAhead, farBehind⟩ := second
  exact ⟨by omega, by omega⟩

theorem MoveCase.near {offset : Int} {o : Outcome} (moved : MoveCase m offset o)
    (single : offset.natAbs = 1) : Near 1 m.dataCursor o.machine.dataCursor := by
  cases moved with
  | @moved place lands _ =>
    have ahead : place ≤ m.dataCursor + 1 := by omega
    have behind : m.dataCursor ≤ place + 1 := by omega
    exact ⟨ahead, behind⟩
  | faulted _ => exact .refl 1 m.dataCursor
  | refused _ => exact .refl 1 m.dataCursor

theorem near_act (m : Machine) (i : Instruction) :
    Near 1 m.dataCursor (m.act i).machine.dataCursor := by
  cases i with
  | moveRight =>
    rw [act]
    exact (moveDataCursor_cases m 1).near rfl
  | moveLeft =>
    rw [act]
    exact (moveDataCursor_cases m (-1)).near rfl
  | output =>
    rw [act, (cursors_writeCell m).2]
    exact .refl 1 m.dataCursor
  | input =>
    rw [act, (cursors_readCell m).2]
    exact .refl 1 m.dataCursor
  | _ => exact .refl 1 m.dataCursor

theorem near_step (p : Program) (m : Machine) :
    Near 1 m.dataCursor (m.step p).machine.dataCursor := by
  have taken := step_cases p m
  generalize m.step p = o at taken
  cases taken with
  | halted _ => exact .refl 1 m.dataCursor
  | jumped _ _ _ => exact .refl 1 m.dataCursor
  | unmatched _ _ _ => exact .refl 1 m.dataCursor
  | @acted i after _ _ acted =>
    have near := near_act m.tick i
    rw [acted] at near
    exact near
  | @failed i after _ _ _ acted =>
    have near := near_act m.tick i
    rw [acted] at near
    exact near

/-! ## Any number of calls -/

/-- A cell that none of the calls touches is left as it was. -/
theorem get_tape_afterCalls {count : Nat}
    (untouched : ∀ state ∈ course p count m, ¬state.Touches p place) :
    (afterCalls p count m).tape.get place = m.tape.get place := by
  induction count generalizing m with
  | zero => rfl
  | succ count ih =>
    have first := get_tape_step (untouched m List.mem_cons_self)
    have rest : ∀ state ∈ course p count (m.step p).machine, ¬state.Touches p place :=
      fun state later => untouched state (List.mem_cons_of_mem m later)
    exact (ih rest).trans first

theorem near_afterCalls (p : Program) (count : Nat) (m : Machine) :
    Near count m.dataCursor (afterCalls p count m).dataCursor := by
  induction count generalizing m with
  | zero => exact .refl 0 m.dataCursor
  | succ count ih =>
    have rest := ih (m.step p).machine
    exact (near_step p m).trans rest

/-! ## From a blank tape -/

/-- All that is not blank lies within the count of steps, and so does the data cursor. -/
structure WithinReach (m : Machine) : Prop where
  dataCursor : m.dataCursor ≤ m.steps
  cells : ∀ place, m.tape.get place ≠ 0 → place < m.steps

theorem withinReach_fresh (input : Input) (output : Output) :
    (fresh input output).WithinReach :=
  ⟨Nat.le_refl 0, fun place filled => absurd (Tape.get_blank place) filled⟩

theorem WithinReach.tick (reach : m.WithinReach) : m.tick.WithinReach :=
  ⟨Nat.le_succ_of_le reach.dataCursor,
    fun place filled => Nat.lt_succ_of_lt (reach.cells place filled)⟩

theorem withinReach_step (reach : m.WithinReach) : (m.step p).machine.WithinReach := by
  cases running : m.halted p with
  | true =>
    rw [step_of_halted running]
    exact reach
  | false =>
    have counted := steps_step running
    have near := near_step p m
    refine ⟨?_, fun place filled => ?_⟩
    · rw [counted]
      exact Nat.le_trans near.1 (Nat.succ_le_succ reach.dataCursor)
    · rw [counted]
      by_cases touched : m.Touches p place
      · exact Nat.lt_succ_of_le (touched.1 ▸ reach.dataCursor)
      · rw [get_tape_step touched] at filled
        exact Nat.lt_succ_of_lt (reach.cells place filled)

/-! ## The way to the end of the tape -/

theorem le_of_offTape_act {i : Instruction} {after : Machine} {position : Nat} {cursor : Int}
    (failed : m.act i = ⟨after, some (.fault (.offTape position cursor))⟩) :
    cursor ≤ m.dataCursor + 1 := by
  have moves : ∀ {offset : Int}, offset ≤ 1 →
      MoveCase m offset ⟨after, some (.fault (.offTape position cursor))⟩ →
      cursor ≤ m.dataCursor + 1 := by
    intro offset single moved
    cases moved with
    | faulted _ => exact Int.add_le_add_left single _
  cases i with
  | moveRight =>
    rw [act] at failed
    exact moves (by decide) (failed ▸ moveDataCursor_cases m 1)
  | moveLeft =>
    rw [act] at failed
    exact moves (by decide) (failed ▸ moveDataCursor_cases m (-1))
  | output =>
    obtain ⟨_, _, same⟩ := failure?_writeCell.mp (congrArg Outcome.failure? failed)
    cases same
  | input =>
    rcases failure?_readCell.mp (congrArg Outcome.failure? failed) with
      ⟨_, _, same⟩ | ⟨_, _, same⟩ <;> cases same
  | _ => cases failed

/-- A step that takes the data cursor off the far end of the tape is not one of the first. -/
theorem le_steps_of_offTape {after : Machine} {position : Nat} {cursor : Int}
    (reach : m.WithinReach)
    (failed : m.step p = ⟨after, some (.fault (.offTape position cursor))⟩)
    (far : tapeSize ≤ cursor) : tapeSize ≤ after.steps := by
  have counted := steps_step (running_of_failed failed)
  rw [failed] at counted
  have bound : cursor ≤ m.dataCursor + 1 := by
    have taken := step_cases p m
    rw [failed] at taken
    cases taken with
    | failed _ _ acted => exact le_of_offTape_act (m := m.tick) acted
  have close := reach.dataCursor
  rw [counted]
  omega

end Machine

end TapeMachine
