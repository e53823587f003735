import TapeMachine.Proofs.Machine.Runs
import TapeMachine.Proofs.Brackets.Scan

/-!
# What a step leaves

All that a step can do is listed once, as the cases of a relation between a machine and the outcome
of its step. Two things follow for every step. The cursors stay in their bounds: the data cursor on
the tape, the instruction cursor in the program or right behind it. And an operation that fails
leaves the machine as it was, except that a step is counted and an event of the input that failed
is used up.

Results:
1. `step_cases`, `moveDataCursor_cases`: what a step and a move of the data cursor can do.
2. `inBounds_step`: the cursors stay in their bounds.
3. `Ends.instCursor_eq`: a run that does not fail ends right behind the program.
4. `intact_step`: what a step leaves that fails.
-/

namespace TapeMachine

/-- An attempt to read meets a failure. -/
def InputEvent.fails : InputEvent → Bool
  | .systemError _ => true
  | .refusal _ => true
  | _ => false

namespace Machine

/-! ## Cases -/

/-- What a move of the data cursor can do. -/
inductive MoveCase (m : Machine) (offset : Int) : Outcome → Prop
  | moved {place : Nat} : m.dataCursor + offset = place → place < tapeSize →
      MoveCase m offset ⟨{ m with dataCursor := place }, none⟩
  | faulted : ¬(0 ≤ m.dataCursor + offset ∧ m.dataCursor + offset < tapeSize) →
      MoveCase m offset
        ⟨m, some (.fault (.offTape m.instCursor (m.dataCursor + offset)))⟩
  | refused : Numeral.writable (m.dataCursor + offset) = false →
      MoveCase m offset ⟨m, some (.refused Numeral.writeRefusal)⟩

/-- What a step can do: find the machine halted, make a jump or miss its partner, or do what the
instruction says, which can fail. -/
inductive StepCase (p : Program) (m : Machine) : Outcome → Prop
  | halted : p.fetch? m.instCursor = none → StepCase p m ⟨m, none⟩
  | jumped {i : Instruction} {stride : Int} {partner : Nat} :
      p.fetch? m.instCursor = some i → m.jumpStride? i = some stride →
      p.partner? i m.instCursor stride = some partner →
      StepCase p m ⟨{ m.tick with instCursor := partner + 1 }, none⟩
  | unmatched {i : Instruction} {stride : Int} :
      p.fetch? m.instCursor = some i → m.jumpStride? i = some stride →
      p.partner? i m.instCursor stride = none →
      StepCase p m ⟨m.tick, some (.fault (.unmatchedBracket i m.instCursor))⟩
  | acted {i : Instruction} {after : Machine} :
      p.fetch? m.instCursor = some i → m.jumpStride? i = none → m.tick.act i = ⟨after, none⟩ →
      StepCase p m ⟨{ after with instCursor := after.instCursor + 1 }, none⟩
  | failed {i : Instruction} {after : Machine} {failure : Failure} :
      p.fetch? m.instCursor = some i → m.jumpStride? i = none →
      m.tick.act i = ⟨after, some failure⟩ → StepCase p m ⟨after, some failure⟩

theorem moveDataCursor_cases (m : Machine) (offset : Int) :
    MoveCase m offset (m.moveDataCursor offset) := by
  simp only [moveDataCursor]
  split
  · next inside =>
    obtain ⟨place, lands⟩ := Int.eq_ofNat_of_zero_le inside.1
    rw [lands, Int.toNat_natCast]
    exact .moved lands (by omega)
  · next outside =>
    split
    · exact .faulted outside
    · next tooFar => exact .refused (Bool.eq_false_of_not_eq_true tooFar)

theorem step_cases (p : Program) (m : Machine) : StepCase p m (m.step p) := by
  cases fetched : p.fetch? m.instCursor with
  | none =>
    rw [step, fetched]
    exact .halted fetched
  | some i =>
    cases jumps : m.jumpStride? i with
    | none =>
      rw [step_of_act fetched jumps]
      rcases acted : m.tick.act i with ⟨after, _ | failure⟩
      · exact .acted fetched jumps acted
      · exact .failed fetched jumps acted
    | some stride =>
      cases found : p.partner? i m.instCursor stride with
      | some partner =>
        rw [step_of_partner fetched jumps found]
        exact .jumped fetched jumps found
      | none =>
        have same : p.fetch? m.tick.instCursor = some i := fetched
        have missing : p.partner? i m.tick.instCursor stride = none := found
        rw [step_of_jump fetched jumps, jump_of_fetch? same, missing]
        exact .unmatched fetched jumps found

/-! ## Bounds of the cursors -/

/-- The data cursor is on the tape, and the instruction cursor in the program or right behind it. -/
structure InBounds (p : Program) (m : Machine) : Prop where
  onTape : m.dataCursor < tapeSize
  inProgram : m.instCursor ≤ p.size

theorem inside_of_running {p : Program} {m : Machine} (running : m.halted p = false) :
    m.instCursor < p.size := by
  obtain ⟨i, fetched⟩ := halted_eq_false_iff.mp running
  exact Program.lt_size_of_fetch? fetched

theorem inBounds_fresh (p : Program) (input : Input) (output : Output) :
    (fresh input output).InBounds p :=
  ⟨show 0 < tapeSize by decide, Nat.zero_le p.size⟩

theorem MoveCase.instCursor_eq {m : Machine} {offset : Int} {o : Outcome}
    (moved : MoveCase m offset o) : o.machine.instCursor = m.instCursor := by
  cases moved <;> rfl

theorem MoveCase.onTape {m : Machine} {offset : Int} {o : Outcome} (moved : MoveCase m offset o)
    (onTape : m.dataCursor < tapeSize) : o.machine.dataCursor < tapeSize := by
  cases moved with
  | moved _ inside => exact inside
  | faulted _ => exact onTape
  | refused _ => exact onTape

theorem cursors_readCell (m : Machine) : m.readCell.machine.instCursor = m.instCursor ∧
    m.readCell.machine.dataCursor = m.dataCursor := by
  unfold readCell
  split <;> exact ⟨rfl, rfl⟩

theorem cursors_writeCell (m : Machine) : m.writeCell.machine.instCursor = m.instCursor ∧
    m.writeCell.machine.dataCursor = m.dataCursor := by
  unfold writeCell
  split <;> exact ⟨rfl, rfl⟩

theorem instCursor_act (m : Machine) (i : Instruction) :
    (m.act i).machine.instCursor = m.instCursor := by
  cases i with
  | moveRight =>
    rw [act]
    exact (moveDataCursor_cases m 1).instCursor_eq
  | moveLeft =>
    rw [act]
    exact (moveDataCursor_cases m (-1)).instCursor_eq
  | output => exact (cursors_writeCell m).1
  | input => exact (cursors_readCell m).1
  | _ => rfl

theorem onTape_act {m : Machine} (onTape : m.dataCursor < tapeSize) (i : Instruction) :
    (m.act i).machine.dataCursor < tapeSize := by
  cases i with
  | moveRight =>
    rw [act]
    exact (moveDataCursor_cases m 1).onTape onTape
  | moveLeft =>
    rw [act]
    exact (moveDataCursor_cases m (-1)).onTape onTape
  | output =>
    rw [act, (cursors_writeCell m).2]
    exact onTape
  | input =>
    rw [act, (cursors_readCell m).2]
    exact onTape
  | _ => exact onTape

theorem StepCase.inProgram {p : Program} {m : Machine} {o : Outcome} (taken : StepCase p m o)
    (inProgram : m.instCursor ≤ p.size) : o.machine.instCursor ≤ p.size := by
  cases taken with
  | halted _ => exact inProgram
  | jumped _ _ found => exact Program.partner?_lt_size found
  | unmatched _ _ _ => exact inProgram
  | @acted i after fetched _ acted =>
    have here := instCursor_act m.tick i
    rw [acted] at here
    -- The instruction stands in the program, and the cursor moves on by one.
    have inside : m.instCursor < p.size := Program.lt_size_of_fetch? fetched
    rw [show after.instCursor = m.instCursor from here]
    exact inside
  | @failed i after failure _ _ acted =>
    have here := instCursor_act m.tick i
    rw [acted] at here
    rw [show after.instCursor = m.instCursor from here]
    exact inProgram

theorem StepCase.onTape {p : Program} {m : Machine} {o : Outcome} (taken : StepCase p m o)
    (onTape : m.dataCursor < tapeSize) : o.machine.dataCursor < tapeSize := by
  cases taken with
  | halted _ => exact onTape
  | jumped _ _ _ => exact onTape
  | unmatched _ _ _ => exact onTape
  | @acted i after _ _ acted =>
    have still := onTape_act (m := m.tick) onTape i
    rw [acted] at still
    exact still
  | @failed i after failure _ _ acted =>
    have still := onTape_act (m := m.tick) onTape i
    rw [acted] at still
    exact still

theorem inBounds_step {p : Program} {m : Machine} (inBounds : m.InBounds p) :
    (m.step p).machine.InBounds p :=
  ⟨(step_cases p m).onTape inBounds.onTape, (step_cases p m).inProgram inBounds.inProgram⟩

/-- A run that does not fail has come to the end of the program. -/
theorem Ends.instCursor_eq {p : Program} {n : Nat} {m after : Machine}
    (ends : Ends p n m ⟨after, none⟩) (inProgram : m.instCursor ≤ p.size) : after.instCursor = p.size := by
  have halted := (ends_halted_iff.mp ends).2
  rw [Machine.halted, decide_eq_true_iff] at halted
  have still : after.instCursor ≤ p.size :=
    ends.keeps (fun m => (step_cases p m).inProgram) inProgram
  exact Nat.le_antisymm still halted

theorem findMatch_lt_size {p : Program} {origin position : Nat} {stride : Int}
    (found : findMatch p origin stride = .ok position) : position < p.size := by
  unfold findMatch at found
  split at found
  · cases found
  · split at found
    · next partner searched =>
      cases found
      exact Program.partner?_lt_size searched
    · cases found

theorem inBounds_jump {p : Program} {m : Machine} (inBounds : m.InBounds p) (stride : Int) :
    (m.jump p stride).machine.InBounds p := by
  unfold jump
  split
  · next partner found => exact ⟨inBounds.onTape, findMatch_lt_size found⟩
  · exact inBounds

/-! ## What is left after a failure -/

/-- The machine after an operation that failed: as it was, with so many steps more on its count, and
with the event of the input used up that failed, if one did. -/
structure Intact (m : Machine) (counted : Nat) (after : Machine) : Prop where
  tape : after.tape = m.tape
  dataCursor : after.dataCursor = m.dataCursor
  instCursor : after.instCursor = m.instCursor
  output : after.output = m.output
  steps : after.steps = m.steps + counted
  input : after.input = m.input ∨ m.input.peek.fails = true ∧ after.input = m.input.advance

theorem Intact.refl (m : Machine) : m.Intact 0 m :=
  ⟨rfl, rfl, rfl, rfl, rfl, .inl rfl⟩

theorem intact_tick (m : Machine) : m.Intact 1 m.tick :=
  ⟨rfl, rfl, rfl, rfl, rfl, .inl rfl⟩

theorem Intact.of_tick {m after : Machine} (intact : m.tick.Intact 0 after) : m.Intact 1 after :=
  ⟨intact.tape, intact.dataCursor, intact.instCursor, intact.output, intact.steps, intact.input⟩

theorem moveDataCursor_failed {m after : Machine} {offset : Int} {failure : Failure}
    (failed : m.moveDataCursor offset = ⟨after, some failure⟩) : after = m := by
  have moved := moveDataCursor_cases m offset
  rw [failed] at moved
  cases moved <;> rfl

theorem writeCell_failed {m after : Machine} {failure : Failure}
    (failed : m.writeCell = ⟨after, some failure⟩) : after = m := by
  unfold writeCell at failed
  split at failed
  · cases failed
    rfl
  · cases failed

theorem jump_failed {p : Program} {m after : Machine} {stride : Int} {failure : Failure}
    (failed : m.jump p stride = ⟨after, some failure⟩) : after = m := by
  unfold jump at failed
  split at failed
  · cases failed
  · cases failed
    rfl

theorem intact_readCell {m after : Machine} {failure : Failure}
    (failed : m.readCell = ⟨after, some failure⟩) : m.Intact 0 after := by
  unfold readCell at failed
  split at failed
  · cases failed
  · cases failed
  · cases failed
  all_goals
    next event =>
      cases failed
      exact ⟨rfl, rfl, rfl, rfl, rfl, .inr ⟨by rw [event]; rfl, rfl⟩⟩

theorem intact_act {m after : Machine} {i : Instruction} {failure : Failure}
    (failed : m.act i = ⟨after, some failure⟩) : m.Intact 0 after := by
  cases i with
  | moveRight =>
    rw [act] at failed
    cases moveDataCursor_failed failed
    exact .refl m
  | moveLeft =>
    rw [act] at failed
    cases moveDataCursor_failed failed
    exact .refl m
  | output =>
    cases writeCell_failed failed
    exact .refl m
  | input => exact intact_readCell failed
  | _ => cases failed

theorem intact_step {p : Program} {m after : Machine} {failure : Failure}
    (failed : m.step p = ⟨after, some failure⟩) : m.Intact 1 after := by
  have taken := step_cases p m
  rw [failed] at taken
  cases taken with
  | unmatched _ _ _ => exact intact_tick m
  | failed _ _ acted => exact (intact_act acted).of_tick

end Machine

end TapeMachine
