import TapeMachine.Proofs.Machine.Locality
import TapeMachine.Proofs.Machine.StraightLine
import TapeMachine.Proofs.Session.Driving

/-!
# How far a session reaches

Steps and runs leave all cells alone but those to which the data cursor has taken them. In a session
that starts afresh neither the data cursor nor a cell that is not zero is ever farther out than the
machine has counted steps, so the fault at the far end of the tape takes as many steps as there are
cells.

Results:
1. `cells_within_reach`: what calls of a step change, and how far a session gets.
-/

namespace TapeMachine

open Machine

namespace Session

/-- After any number of calls of a step, whether they fail or not, a cell that has changed was under
the data cursor at one of them that carried out an instruction that writes cells, and the data cursor
is at most as many places away as there were calls. In a session that starts afresh and performs steps
and runs, the data cursor and all cells that are not zero are within the count of steps, and a fault
beyond the far end of the tape only arises when at least as many steps have been counted as there are
cells. -/
theorem cells_within_reach :
    (∀ (p : Program) (m : Machine) (count : Nat),
      (∀ place, (afterCalls p count m).tape.get place ≠ m.tape.get place →
        ∃ state ∈ course p count m, state.Touches p place) ∧
      (afterCalls p count m).dataCursor ≤ m.dataCursor + count ∧
      m.dataCursor ≤ (afterCalls p count m).dataCursor + count) ∧
    ∀ {program : Program} {input : Input} {output : Output} {level : Int} {file : Text}
      {files : FileTree} {t : Session} {fuel : Nat} {operations : List Operation}
      {answers : List Answer},
      (∀ operation ∈ operations, operation = .run ∨ operation.Drives) →
      (start program input output level file files).performAll fuel operations =
        some (t, answers) →
      t.machine.dataCursor ≤ t.machine.steps ∧
      (∀ place, t.machine.tape.get place ≠ 0 → place < t.machine.steps) ∧
      ∀ {fuel operation u position cursor}, operation = .run ∨ operation.Drives →
        t.perform fuel operation = some (u, .failed (.fault (.offTape position cursor))) →
        tapeSize ≤ cursor → tapeSize ≤ u.machine.steps := by
  constructor
  · intro p m count
    refine ⟨fun place changed => ?_, near_afterCalls p count m⟩
    apply Classical.byContradiction
    intro none
    exact changed (get_tape_afterCalls fun state called touches => none ⟨state, called, touches⟩)
  · intro program input output level file files t fuel operations answers drives performed
    have step : ∀ m : Machine, m.WithinReach → (m.step program).machine.WithinReach :=
      fun _ => withinReach_step
    have tick : ∀ m : Machine, m.WithinReach → m.tick.WithinReach := fun _ => WithinReach.tick
    obtain ⟨reach, same⟩ := performAll_keeps_machine step tick drives performed
      ⟨withinReach_fresh input output, rfl⟩
    refine ⟨reach.dataCursor, reach.cells, ?_⟩
    intro fuel operation u position cursor drives failed far
    obtain ⟨last, lastReach, failing⟩ := exists_step_of_fault step tick drives failed ⟨reach, same⟩
    exact le_steps_of_offTape lastReach failing far

/-- As many moves to the right as there are cells: the run comes to the fault at the far end of the
tape, and a step after it comes to the same fault. -/
theorem cells_within_reach_end :
    let p := Program.ofList (List.replicate 30000 .moveRight)
    let s := start p (.ofEvents []) (.empty none) 0 "debug.txt" .empty
    let failure := Failure.fault (.offTape 29999 30000)
    (∃ t u, s.performAll 30001 [.run] = some (t, [.failed failure]) ∧
      t.perform 0 (.step 1) = some (u, .failed failure) ∧ tapeSize ≤ u.machine.steps) ∧
    let q := Program.ofList [.moveRight, .moveLeft, .moveRight, .decrement]
    let m := fresh (.ofEvents []) (.empty none)
    (afterCalls q 4 m).tape.get 1 ≠ m.tape.get 1 ∧ ∃ state ∈ course q 4 m, state.Touches q 1 := by
  intro p s failure
  constructor
  · have size : tapeSize = 30000 := rfl
    have straight : p.StraightLine := straightLine_replicate 30000
    have inProgram : 29999 < p.size := by
      rw [Program.size_ofList, List.length_replicate]
      omega
    have inside : ∀ earlier ≤ 29999, p.StaysInside earlier :=
      fun earlier within => (staysInside_replicate (by omega)).mpr (by omega)
    have leaves : ¬p.StaysInside (29999 + 1) := by
      rw [staysInside_replicate (Nat.le_refl _)]
      omega
    have target : p.displacement (29999 + 1) = 30000 := displacement_replicate (Nat.le_refl _)
    -- All that matters of the program is known now, and it is too long to be computed with.
    clear_value p
    obtain ⟨_, last, ends, _, computed⟩ :=
      ends_leaving straight (.ofEvents []) (.empty none) inProgram inside leaves
    rw [target] at ends
    -- The fault changes nothing but the count, so the next step attempts the same instruction.
    have again : Computed p 29999 s.machine last.tick := { computed with }
    obtain ⟨i, here, isLocal⟩ := straight.fetch? inProgram
    obtain ⟨failing, _⟩ := step_leaves again here isLocal (inside _ (Nat.le_refl _)) leaves
    rw [target] at failing
    let t : Session := { s with machine := last.tick }
    let u : Session := { s with machine := last.tick.tick }
    have ran : s.run 30001 = some (t, .failed failure) :=
      run_of_unlogged (s := s) (Int.le_refl 0) rfl
        (run_eq_some_iff.mpr ⟨29999, Nat.lt_succ_of_lt (Nat.lt_succ_self _), ends⟩)
    have performed : s.performAll 30001 [.run] = some (t, [.failed failure]) := by
      rw [performAll, perform, ran]
      rfl
    have stepped : t.perform 0 (.step 1) = some (u, .failed failure) := by
      rw [perform_step rfl, iterate_one]
      exact congrArg (fun o => some (t.after o)) failing
    have drives : Operation.step 1 = .run ∨ (Operation.step 1).Drives := .inr trivial
    obtain ⟨_, _, counted⟩ := cells_within_reach.2 (by decide) performed
    exact ⟨t, u, performed, stepped, counted drives stepped (Int.le_refl _)⟩
  · intro q m
    have changed : (afterCalls q 4 m).tape.get 1 ≠ m.tape.get 1 := by decide +kernel
    exact ⟨changed, (cells_within_reach.1 q m 4).1 1 changed⟩

end Session

end TapeMachine
