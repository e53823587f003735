import TapeMachine.Proofs.Session.Driving

/-!
# The cell at the boundaries of a loop

A bracket is passed in one of two ways: it did not jump, or a jump of its partner led right behind
it. The partner jumps on just the cells on which the bracket itself does not. So the bracket right
behind which the instruction cursor stands does not jump on the cell under the data cursor, whether
the program is balanced or not, and neither a failure nor another attempt changes this.

Results:
1. `settled_step`: every step keeps it.
2. `settled_perform`: so do the operations that drive a session.
3. `cell_behind_bracket`: behind a loop the cell is zero, at the start of its body it is not.
-/

namespace TapeMachine

namespace Machine

variable {p : Program} {m after : Machine} {i j : Instruction}

/-- The instruction right in front of the instruction cursor does not jump. -/
def Settled (p : Program) (m : Machine) : Prop :=
  ∀ q i, m.instCursor = q + 1 → p.fetch? q = some i → m.jumpStride? i = none

theorem settled_fresh (p : Program) (input : Input) (output : Output) :
    (fresh input output).Settled p := by
  intro q i here _
  cases here

/-- Whether an instruction jumps depends on the cell under the data cursor. -/
theorem jumpStride?_of_cell (same : after.cell = m.cell) (i : Instruction) :
    after.jumpStride? i = m.jumpStride? i := by
  cases i <;> simp [jumpStride?, same]

theorem Settled.of_same (settled : m.Settled p) (cell : after.cell = m.cell)
    (instCursor : after.instCursor = m.instCursor) : after.Settled p := by
  intro q i here fetched
  rw [jumpStride?_of_cell cell]
  exact settled q i (instCursor.symm.trans here) fetched

theorem Intact.settled {counted : Nat} (intact : m.Intact counted after) (settled : m.Settled p) :
    after.Settled p := by
  refine settled.of_same ?_ intact.instCursor
  rw [cell, cell, intact.tape, intact.dataCursor]

/-- Of two brackets of different kinds only one jumps. -/
theorem jumpStride?_partner {stride : Int} (jumps : m.jumpStride? i = some stride)
    (bracket : j.isBracket = true) (other : j ≠ i) : m.jumpStride? j = none := by
  cases i with
  | jumpForward =>
    cases j with
    | jumpForward => exact absurd rfl other
    | jumpBackward =>
      simp only [jumpStride?] at jumps ⊢
      split at jumps
      · next zero => rw [if_pos zero]
      · cases jumps
    | _ => rfl
  | jumpBackward =>
    cases j with
    | jumpForward =>
      simp only [jumpStride?] at jumps ⊢
      split at jumps
      · cases jumps
      · next nonzero => rw [if_neg nonzero]
    | jumpBackward => exact absurd rfl other
    | _ => rfl
  | _ => cases jumps

/-- An instruction that did not jump would not jump afterwards either: what changes the cell is no
bracket. -/
theorem jumpStride?_act (stays : m.jumpStride? i = none) (acted : m.act i = ⟨after, none⟩) :
    after.jumpStride? i = none := by
  cases i with
  | jumpForward =>
    cases acted
    exact stays
  | jumpBackward =>
    cases acted
    exact stays
  | _ => rfl

theorem settled_step (settled : m.Settled p) : (m.step p).machine.Settled p := by
  generalize stepped : m.step p = o
  have taken := step_cases p m
  rw [stepped] at taken
  cases taken with
  | halted _ => exact settled
  | @jumped i stride partner _ jumps found =>
    intro q j here fetched
    cases here
    obtain ⟨closer, again, bracket, other⟩ := Program.fetch?_of_matchFrom found
    rw [fetched] at again
    cases again
    exact jumpStride?_partner (m := m) jumps bracket other
  | unmatched _ _ _ => exact settled
  | @acted i after fetched stays acted =>
    intro q j here behind
    have still := instCursor_act m.tick i
    rw [acted] at still
    have position : m.instCursor = q := still.symm.trans (Nat.succ.inj here)
    rw [position, behind] at fetched
    cases fetched
    have kept : after.jumpStride? i = none := jumpStride?_act (m := m.tick) stays acted
    exact kept
  | failed _ _ _ => exact (intact_step stepped).settled settled

end Machine

open Machine

namespace Session

/-- The bracket right behind which the instruction cursor stands does not jump. -/
def Settled (s : Session) : Prop :=
  s.machine.Settled s.program

theorem settled_perform {s t : Session} {fuel : Nat} {operation : Operation} {answer : Answer}
    (drives : operation = .run ∨ operation.Drives)
    (performed : s.perform fuel operation = some (t, answer)) (settled : s.Settled) :
    t.Settled ∧ t.program = s.program := by
  obtain ⟨kept, program⟩ :=
    perform_keeps (fun _ => settled_step) (fun _ kept => kept) drives performed ⟨settled, rfl⟩
  rw [Settled, program]
  exact ⟨kept, rfl⟩

/-- Whatever steps and runs a session performs from the start on, with whatever program and input,
and also after operations that failed: if the instruction cursor stands right behind a closing
bracket the cell under the data cursor is zero, and if it stands right behind an opening bracket the
cell is not zero. -/
theorem cell_behind_bracket {program : Program} {input : Input} {output : Output} {level : Int}
    {file : Text} {files : FileTree} {t : Session} {fuel : Nat} {operations : List Operation}
    {answers : List Answer}
    (drives : ∀ operation ∈ operations, operation = .run ∨ operation.Drives)
    (performed : (start program input output level file files).performAll fuel operations =
      some (t, answers)) {q : Nat} (here : t.machine.instCursor = q + 1) :
    (program.fetch? q = some .jumpBackward → t.machine.cell = 0) ∧
      (program.fetch? q = some .jumpForward → t.machine.cell ≠ 0) := by
  obtain ⟨settled, same⟩ : t.Settled ∧ t.program = program := by
    refine performAll_keeps (fun s => s.Settled ∧ s.program = program) ?_ performed
      ⟨settled_fresh program input output, rfl⟩
    intro operation member s u answer first ⟨before, same⟩
    obtain ⟨kept, program⟩ := settled_perform (drives operation member) first before
    exact ⟨kept, program.trans same⟩
  rw [Settled, same] at settled
  constructor
  · intro closing
    have stays := settled q .jumpBackward here closing
    simp only [jumpStride?] at stays
    split at stays
    · assumption
    · cases stays
  · intro opening zero
    have stays := settled q .jumpForward here opening
    rw [jumpStride?, if_pos zero] at stays
    cases stays

/-- The first attempt to read fails. Another run reads a byte, goes through the loop and comes to a
zero cell behind it; two steps instead of the run stop at the start of the body. -/
theorem cell_behind_bracket_retried :
    let program := Program.ofList [.input, .jumpForward, .decrement, .jumpBackward]
    let s := start program (.ofEvents [.systemError (.noSuchFile "stdin"), .byte 2]) (.empty none) 0
      "debug.txt" .empty
    (∃ t answers, s.performAll 9 [.run, .run] = some (t, answers) ∧ t.machine.instCursor = 3 + 1 ∧
      t.machine.cell = 0) ∧
    ∃ t answers, s.performAll 9 [.run, .step 2] = some (t, answers) ∧
      t.machine.instCursor = 1 + 1 ∧ t.machine.cell ≠ 0 := by
  intro program s
  constructor
  · have ended : (s.performAll 9 [.run, .run]).map (fun result => result.1.machine.instCursor) =
        some (3 + 1) := by decide +kernel
    obtain ⟨⟨t, answers⟩, performed, here⟩ := Option.map_eq_some_iff.mp ended
    exact ⟨t, answers, performed, here,
      (cell_behind_bracket (by decide) performed here).1 (by decide)⟩
  · have ended : (s.performAll 9 [.run, .step 2]).map (fun result => result.1.machine.instCursor) =
        some (1 + 1) := by decide +kernel
    obtain ⟨⟨t, answers⟩, performed, here⟩ := Option.map_eq_some_iff.mp ended
    exact ⟨t, answers, performed, here,
      (cell_behind_bracket (by decide) performed here).2 (by decide)⟩

end Session

end TapeMachine
