import TapeMachine.Proofs.Machine.Effects
import TapeMachine.Proofs.Session.Operations

/-!
# The cursors of a session stay in their bounds

Whatever a session is asked to do, and however often it failed before, its data cursor is on the
tape and its instruction cursor in the program or right behind it. Operations that put values into
the state from outside are left out, and so is a search that does not move. The bounds hold however
far the data cursor is to be moved, whatever the stride of a search is, and also when a log is stuck
and an operation fails halfway.

Results:
1. `inBounds_perform`: what one operation keeps.
2. `inBounds_of_performAll`: so any number of operations keep it.
3. `bounds_performAll`: what follows for runs that halt and for searches.
-/

namespace TapeMachine

namespace Machine

variable {p : Program} {m : Machine}

theorem inBounds_readCell (inBounds : m.InBounds p) : m.readCell.machine.InBounds p := by
  obtain ⟨inst, data⟩ := cursors_readCell m
  exact ⟨data.symm ▸ inBounds.onTape, inst.symm ▸ inBounds.inProgram⟩

theorem inBounds_moveDataCursor (inBounds : m.InBounds p) (offset : Int) :
    (m.moveDataCursor offset).machine.InBounds p := by
  have moved := moveDataCursor_cases m offset
  exact ⟨moved.onTape inBounds.onTape, moved.instCursor_eq.symm ▸ inBounds.inProgram⟩

theorem instCursor_of_run {fuel : Nat} {o : Outcome} (ran : m.run p fuel = some o)
    (inBounds : m.InBounds p) (succeeded : o.failure? = none) :
    o.machine.instCursor = p.size := by
  obtain ⟨after, failure?⟩ := o
  cases succeeded
  obtain ⟨n, _, ends⟩ := run_eq_some_iff.mp ran
  exact ends.instCursor_eq inBounds.inProgram

end Machine

open Machine

/-- An operation of the machine itself: it puts nothing into the state from outside, and a search
moves in some direction. -/
def Operation.Regular : Operation → Prop
  | .jump stride => stride ≠ 0
  | .findMatch _ stride => stride ≠ 0
  | .setCell _ _ => False
  | .setDataCursor _ => False
  | .setInstCursor _ => False
  | _ => True

instance : DecidablePred Operation.Regular
  | .jump stride => inferInstanceAs (Decidable (stride ≠ 0))
  | .findMatch _ stride => inferInstanceAs (Decidable (stride ≠ 0))
  | .setCell _ _ => .isFalse id
  | .setDataCursor _ => .isFalse id
  | .setInstCursor _ => .isFalse id
  | .step _ => .isTrue trivial
  | .run => .isTrue trivial
  | .moveDataCursor _ => .isTrue trivial
  | .readCell => .isTrue trivial
  | .setLogLevel _ => .isTrue trivial

namespace Session

/-- The cursors of the machine are in the bounds of its program. -/
def InBounds (s : Session) : Prop :=
  s.machine.InBounds s.program

theorem inBounds_jump {s : Session} (inBounds : s.InBounds) (stride : Int) :
    (s.jump stride).machine.InBounds s.program := by
  have kept := Machine.inBounds_jump inBounds stride
  unfold jump
  split
  · rw [machine_noteJump]
    exact kept
  · exact kept

theorem inBounds_perform {s t : Session} {fuel : Nat} {operation : Operation} {answer : Answer}
    (regular : operation.Regular) (inBounds : s.InBounds)
    (performed : s.perform fuel operation = some (t, answer)) :
    t.InBounds ∧ t.program = s.program := by
  cases operation with
  | step count =>
    cases performed
    exact ⟨iterate_keeps (step_keeps (fun _ => Machine.inBounds_step)
      fun _ bounds => ⟨bounds.onTape, bounds.inProgram⟩) count inBounds, rfl⟩
  | run =>
    obtain ⟨kept, program⟩ := run_keeps (fun _ => Machine.inBounds_step) performed inBounds
    rw [InBounds, program]
    exact ⟨kept, rfl⟩
  | moveDataCursor offset =>
    cases performed
    exact ⟨inBounds_moveDataCursor inBounds offset, rfl⟩
  | readCell =>
    cases performed
    exact ⟨inBounds_readCell inBounds, rfl⟩
  | jump stride =>
    cases performed
    exact ⟨inBounds_jump inBounds stride, rfl⟩
  | findMatch origin stride =>
    simp only [perform] at performed
    split at performed <;> cases performed <;> exact ⟨inBounds, rfl⟩
  | setCell _ _ => exact regular.elim
  | setDataCursor _ => exact regular.elim
  | setInstCursor _ => exact regular.elim
  | setLogLevel level =>
    cases performed
    exact ⟨inBounds, rfl⟩

theorem inBounds_of_performAll {s t : Session} {fuel : Nat} {operations : List Operation}
    {answers : List Answer} (regular : ∀ operation ∈ operations, operation.Regular)
    (inBounds : s.InBounds) (performed : s.performAll fuel operations = some (t, answers)) :
    t.InBounds ∧ t.program = s.program := by
  refine performAll_keeps (fun u => u.InBounds ∧ u.program = s.program) ?_ performed
    ⟨inBounds, rfl⟩
  intro operation member u v answer first ⟨before, same⟩
  obtain ⟨kept, program⟩ := inBounds_perform (regular operation member) before first
  exact ⟨kept, program.trans same⟩

/-- A run that answers without a failure has come to the end of the program. -/
theorem instCursor_of_run {s t : Session} {fuel : Nat} (inBounds : s.InBounds)
    (ran : s.run fuel = some (t, .done)) : t.machine.instCursor = s.program.size := by
  generalize result : (t, Answer.done) = r at ran
  cases run_cases ran with
  | stuck _ _ => cases result
  | @unlogged o _ _ outcome =>
    have succeeded : o.answer = .done := (congrArg Prod.snd result).symm
    have same : t.machine = o.machine := congrArg (·.1.machine) result
    rw [same]
    exact Machine.instCursor_of_run outcome inBounds (answer_eq_done_iff.mp succeeded)
  | unopened _ _ => cases result
  | unwritten _ _ _ => cases result
  | @logged place o log _ _ _ steps =>
    have succeeded : (close o log).1.answer = .done := (congrArg Prod.snd result).symm
    have same : t.machine = o.machine := by
      rw [← machine_logged s place o log, ← result]
    rw [same]
    exact Machine.instCursor_of_run (run_of_logging steps) inBounds
      ((failure?_close_eq_none_iff log).mp (answer_eq_done_iff.mp succeeded))

/-- A session whose machine starts afresh keeps all that is asked of its state, whatever regular
operations it performs: the tape has its size and holds bytes, and the cursors are in their bounds.
So a run that does not fail is at the end of the program, and a search finds a position inside. -/
theorem bounds_performAll {program : Program} {input : Input} {output : Output} {level : Int}
    {file : Text} {files : FileTree} {t : Session} {fuel : Nat} {operations : List Operation}
    {answers : List Answer} (regular : ∀ operation ∈ operations, operation.Regular)
    (performed : (start program input output level file files).performAll fuel operations =
      some (t, answers)) :
    (t.machine.tape.cells.toList.length = 30000 ∧
      ∀ cell ∈ t.machine.tape.cells.toList, cell.toNat ≤ 255) ∧
    t.machine.dataCursor < 30000 ∧ t.machine.instCursor ≤ program.size ∧
    (∀ {fuel u}, t.perform fuel .run = some (u, .done) → u.machine.instCursor = program.size) ∧
    ∀ {fuel u origin stride position}, stride ≠ 0 →
      t.perform fuel (.findMatch origin stride) = some (u, .found position) →
      position < program.size := by
  have fresh : (start program input output level file files).InBounds :=
    inBounds_fresh program input output
  obtain ⟨inBounds, same⟩ := inBounds_of_performAll regular fresh performed
  have program_eq : t.program = program := same
  rw [← program_eq]
  refine ⟨⟨Vector.length_toList, fun cell _ => ?_⟩, inBounds.onTape, inBounds.inProgram,
    instCursor_of_run inBounds, ?_⟩
  · exact Nat.le_of_lt_succ cell.toNat_lt
  · intro fuel u origin stride position _ found
    simp only [perform] at found
    split at found
    · next searched =>
      cases found
      exact findMatch_lt_size searched
    · cases found

/-- A jump and a search fail in turn, and a step goes on from where they left the machine. The run
then jumps from a bracket to the end of the program. -/
theorem bounds_performAll_failures :
    let s := start (.ofList [.jumpBackward, .jumpForward, .jumpBackward]) (.ofEvents [])
      (.empty none) 0 "debug.txt" .empty
    let operations := [.jump (-3), .findMatch 7 2, .step 1, .setLogLevel (-1)]
    (∀ operation ∈ operations, operation.Regular) ∧ ∃ t answers u,
      s.performAll 0 operations = some (t, answers) ∧ t.perform 2 .run = some (u, .done) ∧
      u.machine.instCursor = 3 := by
  intro s operations
  have regular : ∀ operation ∈ operations, operation.Regular := by decide
  let t : Session :=
    { s with machine := { s.machine with instCursor := 1, steps := 1 }
             logLevel := -1 }
  have performed : ∃ answers, s.performAll 0 operations = some (t, answers) := ⟨_, rfl⟩
  have ran : ∃ u, t.perform 2 .run = some (u, .done) := ⟨_, rfl⟩
  obtain ⟨answers, performed⟩ := performed
  obtain ⟨u, ran⟩ := ran
  obtain ⟨_, _, _, ends, _⟩ := bounds_performAll regular performed
  exact ⟨regular, t, answers, u, performed, ran, ends ran⟩

end Session

end TapeMachine
